import TemplateLint.Proofs.Strides

/-!
# What a stride changes

What is there after a stride was there before it, or the stride has put it there in the one way that
there is: jobs are taken up under the next number, documents come in line behind the job that was
ended, and a deed is done by whoever has the work in hand.
Main exports: `Job.Kin`, `Server.UnderWay`, `Dealing`, `Stride.dealing`, `Stride.job_before`,
`Stride.under_before`, `Stride.under_after`, `Stride.line_of`, `Stride.onward`, `Source`,
`Stride.deed_of`.
-/

namespace TemplateLint

/-! ## Jobs -/

/-- A job and what has become of it: it may have gone on, and it may have been superseded. -/
structure Job.Kin (job later : Job) : Prop where
  origin : later.origin = job.origin
  errand : later.errand = job.errand
  document : later.document = job.document
  superseded : job.superseded = true → later.superseded = true

namespace Job.Kin

variable {job later : Job}

theorem refl (job : Job) : job.Kin job := ⟨rfl, rfl, rfl, id⟩

theorem trans {last : Job} (one : job.Kin later) (two : later.Kin last) : job.Kin last :=
  ⟨two.origin.trans one.origin, two.errand.trans one.errand, two.document.trans one.document,
    fun finished => two.superseded (one.superseded finished)⟩

theorem of_same (same : job.Same later) : job.Kin later :=
  ⟨same.origin.symm, same.errand.symm, same.document.symm, fun finished => by
    rw [← same.superseded, finished]⟩

/-- What waits behind a job stays the same. -/
theorem behind (kin : job.Kin later) : Hand.behind later = Hand.behind job := by
  rw [Hand.behind, Hand.behind, kin.errand, kin.origin]

end Job.Kin

namespace Fate

variable {entry next : Option Job} {job : Job}

theorem kin_before (fate : Fate entry (some job)) :
    ∃ before, entry = some before ∧ before.Kin job := by
  obtain ⟨before, same, rfl | rfl⟩ := fate.of_some
  · exact ⟨_, same, .refl _⟩
  · exact ⟨before, same, rfl, rfl, rfl, fun _ => rfl⟩

theorem kin_after (fate : Fate (some job) next) (lints : job.errand.mode = .lint) :
    ∃ after, next = some after ∧ job.Kin after := by
  obtain ⟨after, same, rfl | rfl⟩ := fate.lint lints
  · exact ⟨_, same, .refl _⟩
  · exact ⟨_, same, rfl, rfl, rfl, fun _ => rfl⟩

end Fate

namespace Turn

variable {turn next : Turn} {number name : Nat} {job entry : Job}

/-- Work leaves the jobs that there were. -/
theorem Toil.job_before (toil : Toil number turn next) (carries : turn.Carries number job)
    (stays : next.Carries number job) (held : next.server.jobs.get? name = some entry) :
    ∃ before, turn.server.jobs.get? name = some before ∧ before.Kin entry := by
  by_cases here : name = number
  · subst here
    obtain ⟨after, there, same⟩ := stays
    obtain ⟨before, earlier, stage⟩ := carries
    cases held.symm.trans there
    exact ⟨before, earlier, .of_same (stage.trans same.symm)⟩
  · exact ⟨entry, (toil.others name here).symm.trans held, .refl entry⟩

theorem Toil.job_after (toil : Toil number turn next) (carries : turn.Carries number job)
    (stays : next.Carries number job) (held : turn.server.jobs.get? name = some entry) :
    ∃ after, next.server.jobs.get? name = some after ∧ entry.Kin after := by
  by_cases here : name = number
  · subst here
    obtain ⟨after, there, same⟩ := stays
    obtain ⟨before, earlier, stage⟩ := carries
    cases held.symm.trans earlier
    exact ⟨after, there, .of_same (stage.trans same.symm)⟩
  · exact ⟨entry, (toil.others name here).trans held, .refl entry⟩

/-- A job that ends was there, and the others stay. -/
theorem Ends.job_before {finding : Option Finding}
    (ends : Ends number finding turn next) (held : next.server.jobs.get? name = some entry) :
    turn.server.jobs.get? name = some entry ∧ name ≠ number := by
  rw [ends.jobs] at held
  split at held
  · cases held
  · next apart => exact ⟨held, apart⟩

end Turn

/-- A job is taken up for a message, or for the first of the documents in line. -/
structure Taking (before next : Hand × Turn) (number : Nat) (job : Job) : Prop where
  hand : next.1 = .taken number job
  takes : before.2.Takes number job next.2
  source : (before.1 = .message job.origin ∧ before.2.server.phase = .ready) ∨
    ∃ uri others, before.1 = .line job.origin (uri :: others) ∧ job.errand = .lint others ∧
      before.2.server.documents.get? uri = some job.document

namespace Taking

theorem renewLint {turn : Turn} (origin : Nat) (document : Document)
    (ready : turn.server.phase = .ready) :
    Taking (.message origin, turn)
      (.taken ((turn.keep document).beginLint origin document []).1.1
        ((turn.keep document).beginLint origin document []).1.2,
        ((turn.keep document).beginLint origin document []).2)
      ((turn.keep document).beginLint origin document []).1.1
      ((turn.keep document).beginLint origin document []).1.2 :=
  ⟨rfl, Turn.renewLint_takes turn origin document, Or.inl ⟨rfl, ready⟩⟩

theorem beginFormat {turn : Turn} (origin : Nat) (request : RpcId) (tabSize : Nat)
    (document : Document) (ready : turn.server.phase = .ready) :
    Taking (.message origin, turn)
      (.taken (turn.beginFormat origin request tabSize document).1.1
        (turn.beginFormat origin request tabSize document).1.2,
        (turn.beginFormat origin request tabSize document).2)
      (turn.beginFormat origin request tabSize document).1.1
      (turn.beginFormat origin request tabSize document).1.2 :=
  ⟨rfl, Turn.beginFormat_takes turn origin request tabSize document, Or.inl ⟨rfl, ready⟩⟩

theorem beginLint {turn : Turn} (origin : Nat) {uri : Uri} (others : List Uri)
    {document : Document} (held : turn.server.documents.get? uri = some document) :
    Taking (.line origin (uri :: others), turn)
      (.taken (turn.beginLint origin document others).1.1
        (turn.beginLint origin document others).1.2,
        (turn.beginLint origin document others).2)
      (turn.beginLint origin document others).1.1 (turn.beginLint origin document others).1.2 :=
  ⟨rfl, Turn.beginLint_takes turn origin document others, Or.inr ⟨uri, others, rfl, rfl, held⟩⟩

variable {before next : Hand × Turn} {number name : Nat} {job entry : Job}

/-- A job that is taken up is a new one, and the others were there before. -/
theorem job_before (taking : Taking before next number job)
    (held : next.2.server.jobs.get? name = some entry) :
    (∃ earlier, before.2.server.jobs.get? name = some earlier ∧ earlier.Kin entry) ∨
      Taking before next name entry := by
  by_cases here : name = number
  · subst here
    cases held.symm.trans taking.takes.held
    exact Or.inr taking
  · have fate := taking.takes.others name here
    rw [held] at fate
    exact Or.inl fate.kin_before

theorem job_after (taking : Taking before next number job)
    (bound : name < before.2.server.nextJob) (held : before.2.server.jobs.get? name = some entry)
    (lints : entry.errand.mode = .lint) :
    ∃ after, next.2.server.jobs.get? name = some after ∧ entry.Kin after := by
  have numbered := taking.takes.numbered
  have fate := taking.takes.others name (by omega)
  rw [held] at fate
  exact fate.kin_after lints

end Taking

/-- Work is done on the job; a superseded one only goes on when the server is eager. -/
structure Engaged (eager : Bool) (turn : Turn) (number : Nat) (job : Job) : Prop where
  carries : turn.Carries number job
  counts : job.superseded = true → eager = true

theorem Engaged.of_counts {eager : Bool} {turn : Turn} {number : Nat} {job : Job}
    (carries : turn.Carries number job) (counts : job.superseded = false) :
    Engaged eager turn number job :=
  ⟨carries, fun superseded => by rw [counts] at superseded; cases superseded⟩

/-- When a finding is told, something is left to tell of it, but of the changes of a formatting. -/
inductive Server.Tells (number : Nat) (finding : Finding) (server next : Server) : Prop where
  | partly (rest : Rest) (fits : rest.Fits finding.output)
      (put : next.tellings = server.tellings.put number ⟨finding.job, rest⟩)
  | wholly (formats : finding.job.errand.mode = .format) (stdout : Option String)
      (well : finding.output = .ok stdout) (same : next.tellings = server.tellings)

/-- A job has come to the finding in hand; if it is a lint, it still counts. -/
structure Finished (before : Hand × Turn) (number : Nat) (finding : Finding) : Prop where
  hand : before.1 = .found number finding
  carries : before.2.Carries number finding.job
  counts : finding.job.errand.mode = .lint → finding.job.superseded = false

/-! ## What a stride does with the jobs -/

/-- What a stride does with the jobs. -/
inductive Dealing (eager : Bool) (before next : Hand × Turn) : Prop where
  /-- They are left alone, and nothing is done. -/
  | none (jobs : next.2.server.jobs = before.2.server.jobs)
      (tellings : next.2.server.tellings = before.2.server.tellings)
      (isolated : next.2.server.isolated = before.2.server.isolated)
      (deeds : next.2.deeds = before.2.deeds)
  /-- What goes on apart from them may supersede or cancel some. -/
  | aside (apart : before.2.Apart next.2)
  | takes (number : Nat) (job : Job) (taking : Taking before next number job)
  | works (number : Nat) (job : Job) (engaged : Engaged eager before.2 number job)
      (toil : Turn.Toil number before.2 next.2) (stays : next.2.Carries number job)
  /-- A job goes without a finding, and what waits behind it comes next. -/
  | drops (number : Nat) (job : Job) (carries : before.2.Carries number job)
      (ends : Turn.Ends number Option.none before.2 next.2)
      (tellings : next.2.server.tellings = before.2.server.tellings)
      (behind : next.1 = .behind job)
  /-- A job has come to a finding; there may be something left to tell of it. -/
  | tells (number : Nat) (finding : Finding) (finished : Finished before number finding)
      (ends : Turn.Ends number (some finding) before.2 next.2)
      (tells : Server.Tells number finding before.2.server next.2.server) (free : next.1 = .free)
  /-- All is told of a job, and what waits behind it comes next. -/
  | concludes (number : Nat) (telling : Telling)
      (held : before.2.server.tellings.get? number = some telling)
      (silent : next.2 = before.2.silence number) (behind : next.1 = .behind telling.job)
  | stops (closing : before.2.server.phase = .closing) (stops : before.2.Stops next.2)
      (free : next.1 = .free)

namespace Stride

variable {eager : Bool} {before next : Hand × Turn} {number : Nat} {job : Job}

/-- Every stride does one of these things. -/
theorem dealing (stride : Stride eager before next) : Dealing eager before next := by
  cases stride with
  | aside hand turn next act apart => exact .aside apart
  | rest => exact .none rfl rfl rfl rfl
  | count => exact .none rfl rfl rfl rfl
  | configure => exact .none rfl rfl rfl rfl
  | save => exact .none rfl rfl rfl rfl
  | skip => exact .none rfl rfl rfl rfl
  | spot => exact .none rfl rfl rfl rfl
  | renewLint turn origin document ready => exact .takes _ _ (.renewLint origin document ready)
  | beginFormat turn origin request tabSize uri document held ready =>
      exact .takes _ _ (.beginFormat origin request tabSize document ready)
  | beginLint turn origin uri others document held =>
      exact .takes _ _ (.beginLint origin others held)
  | shutDown turn origin id closing => exact .stops closing (Turn.shutDown_stops turn id) rfl
  | proceed turn number job carries counts =>
      have works := Turn.proceed_works carries
      exact .works number job (.of_counts carries counts) works.toil works.carries
  | resume turn number job news held counts =>
      have carries := Turn.carries_of_get? held
      have works := Turn.resume_works carries news
      exact .works number job (.of_counts carries counts) works.toil works.carries
  | linger turn number job news eagerly held superseded =>
      have carries := Turn.carries_of_get? held
      have works := Turn.resume_works carries news
      exact .works number job ⟨carries, fun _ => eagerly⟩ works.toil works.carries
  | drop turn number job carries superseded =>
      exact .drops number job carries (Turn.drop_ends turn number _)
        (Turn.drop_tellings turn number _) rfl
  | finishLint turn number finding carries lints counts =>
      obtain ⟨rest, fits, put⟩ := Turn.finishLint_tellings turn number finding
      exact .tells number finding ⟨rfl, carries, fun _ => counts⟩
        (Turn.finishLint_ends turn number finding) (.partly rest fits put) rfl
  | finishFormat turn number request finding carries formats =>
      have mode := Errand.mode_of_request? formats
      refine .tells number finding ⟨rfl, carries, fun lints => ?_⟩
        (Turn.finishFormat_ends turn number request finding) ?_ rfl
      · rw [mode] at lints
        cases lints
      · obtain ⟨stdout, well, same⟩ | ⟨failure, failed, put⟩ :=
          Turn.finishFormat_tellings turn number request finding
        · exact .wholly mode stdout well same
        · exact .partly (.display failure) failed put
  | conclude turn number telling held all => exact .concludes number telling held rfl rfl

/-- A job was there before, or it has just been taken up. -/
theorem job_before (stride : Stride eager before next)
    (held : next.2.server.jobs.get? number = some job) :
    (∃ entry, before.2.server.jobs.get? number = some entry ∧ entry.Kin job) ∨
      Taking before next number job := by
  cases stride.dealing with
  | none jobs tellings isolated deeds =>
      rw [jobs] at held
      exact Or.inl ⟨job, held, .refl job⟩
  | aside apart =>
      have fate := apart.jobs number
      rw [held] at fate
      exact Or.inl fate.kin_before
  | takes name entry taking => exact taking.job_before held
  | works name entry engaged toil stays =>
      exact Or.inl (toil.job_before engaged.carries stays held)
  | drops name entry carries ends tellings behind =>
      exact Or.inl ⟨job, (ends.job_before held).1, .refl job⟩
  | tells name finding finished ends tells free =>
      exact Or.inl ⟨job, (ends.job_before held).1, .refl job⟩
  | concludes name telling present silent behind =>
      rw [silent] at held
      exact Or.inl ⟨job, held, .refl job⟩
  | stops closing stops free =>
      have fate := stops.jobs number
      rw [held] at fate
      exact Or.inl fate.kin_before

/-- A job that tells did so before, or it has just come to its finding. -/
theorem telling_before (stride : Stride eager before next) {rest : Rest}
    (held : next.2.server.tellings.get? number = some ⟨job, rest⟩) :
    (∃ former, before.2.server.tellings.get? number = some ⟨job, former⟩) ∨
      ∃ finding, Finished before number finding ∧ finding.job = job := by
  have still (same : next.2.server.tellings = before.2.server.tellings) :
      ∃ former, before.2.server.tellings.get? number = some ⟨job, former⟩ :=
    ⟨rest, same ▸ held⟩
  cases stride.dealing with
  | none jobs tellings isolated deeds => exact Or.inl (still tellings)
  | aside apart =>
      have fate := apart.tellings number
      rw [held] at fate
      obtain ⟨⟨_, former⟩, present, rfl⟩ := fate.of_some
      exact Or.inl ⟨former, present⟩
  | takes name entry taking => exact Or.inl (still taking.takes.tellings)
  | works name entry engaged toil stays => exact Or.inl (still toil.tellings)
  | drops name entry carries ends tellings behind => exact Or.inl (still tellings)
  | tells name finding finished ends tells free =>
      cases tells with
      | wholly formats stdout well same => exact Or.inl (still same)
      | partly left fits put =>
          rw [put, Table.get?_put] at held
          split at held
          · next same =>
              subst same
              cases held
              exact Or.inr ⟨finding, finished, rfl⟩
          · exact Or.inl ⟨rest, held⟩
  | concludes name telling present silent behind =>
      rw [silent] at held
      simp only [Turn.silence, Turn.update, Table.get?_erase] at held
      split at held
      · cases held
      · exact Or.inl ⟨rest, held⟩
  | stops closing stops free => exact Or.inl (still stops.tellings)

end Stride

/-- No job runs any more when it tells what it has come to. -/
def Server.Parted (server : Server) : Prop :=
  ∀ number telling, server.tellings.get? number = some telling → server.jobs.get? number = none

/-- The job is under way: it runs, or it tells what it has come to. -/
def Server.UnderWay (server : Server) (number : Nat) (job : Job) : Prop :=
  server.jobs.get? number = some job ∨ ∃ rest, server.tellings.get? number = some ⟨job, rest⟩

/-- At most one job is under way under a number. -/
theorem Server.Parted.unique {server : Server} {number : Nat} {job other : Job}
    (parted : server.Parted) (one : server.UnderWay number job)
    (two : server.UnderWay number other) : job = other := by
  rcases one with runs | ⟨rest, tells⟩ <;> rcases two with also | ⟨left, told⟩
  · exact Option.some.inj (runs.symm.trans also)
  · rw [parted number _ told] at runs
    cases runs
  · rw [parted number _ tells] at also
    cases also
  · cases tells.symm.trans told
    rfl

/-- The job is no longer under way: it was dropped, or all is told of it. -/
inductive Leaving (number : Nat) (job : Job) (server next : Server) : Prop where
  | dropped (held : server.jobs.get? number = some job) (gone : next.jobs.get? number = none)
      (tellings : next.tellings = server.tellings)
  | concluded (rest : Rest) (held : server.tellings.get? number = some ⟨job, rest⟩)
      (gone : next.tellings.get? number = none) (jobs : next.jobs = server.jobs)

namespace Leaving

variable {number : Nat} {job : Job} {server next : Server}

theorem under (leaving : Leaving number job server next) : server.UnderWay number job := by
  cases leaving with
  | dropped held gone tellings => exact Or.inl held
  | concluded rest held gone jobs => exact Or.inr ⟨rest, held⟩

theorem gone (leaving : Leaving number job server next) (parted : server.Parted) (entry : Job) :
    ¬ next.UnderWay number entry := by
  cases leaving with
  | dropped held gone tellings =>
      rintro (runs | ⟨rest, tells⟩)
      · rw [gone] at runs
        cases runs
      · rw [tellings] at tells
        rw [parted number _ tells] at held
        cases held
  | concluded rest held gone jobs =>
      rintro (runs | ⟨rest, tells⟩)
      · rw [jobs, parted number _ held] at runs
        cases runs
      · rw [gone] at tells
        cases tells

end Leaving

namespace Stride

variable {eager : Bool} {before next : Hand × Turn} {number : Nat} {job : Job}

/-- A job was under way before, or it has just been taken up. -/
theorem under_before (stride : Stride eager before next)
    (under : next.2.server.UnderWay number job) :
    (∃ entry, before.2.server.UnderWay number entry ∧ entry.Kin job) ∨
      Taking before next number job := by
  rcases under with held | ⟨rest, held⟩
  · exact (stride.job_before held).imp_left fun ⟨entry, present, kin⟩ =>
      ⟨entry, Or.inl present, kin⟩
  · refine Or.inl ?_
    rcases stride.telling_before held with former | ⟨finding, finished, rfl⟩
    · exact ⟨job, Or.inr former, .refl job⟩
    · obtain ⟨entry, present, same⟩ := finished.carries
      exact ⟨entry, Or.inl present, .of_same same⟩

/-- A lint stays under way, or what was in line behind it is in hand. -/
theorem under_after (stride : Stride eager before next) (parted : before.2.server.Parted)
    (bound : number < before.2.server.nextJob) (under : before.2.server.UnderWay number job)
    (lints : job.errand.mode = .lint) :
    (∃ entry, next.2.server.UnderWay number entry ∧ job.Kin entry) ∨ next.1 = .behind job := by
  have runs {entry : Job} (held : next.2.server.jobs.get? number = some entry)
      (kin : job.Kin entry) :
      (∃ entry, next.2.server.UnderWay number entry ∧ job.Kin entry) ∨ next.1 = .behind job :=
    Or.inl ⟨entry, Or.inl held, kin⟩
  have tells {rest : Rest} (held : next.2.server.tellings.get? number = some ⟨job, rest⟩) :
      (∃ entry, next.2.server.UnderWay number entry ∧ job.Kin entry) ∨ next.1 = .behind job :=
    Or.inl ⟨job, Or.inr ⟨rest, held⟩, .refl job⟩
  cases stride.dealing with
  | none jobs tellings isolated deeds =>
      rcases under with held | ⟨rest, held⟩
      · exact runs (jobs.symm ▸ held) (.refl job)
      · exact tells (tellings.symm ▸ held)
  | aside apart =>
      rcases under with held | ⟨rest, held⟩
      · have fate := apart.jobs number
        rw [held] at fate
        obtain ⟨entry, there, kin⟩ := fate.kin_after lints
        exact runs there kin
      · have fate := apart.tellings number
        rw [held] at fate
        obtain ⟨⟨_, later⟩, there, rfl⟩ := fate.lint lints
        exact tells there
  | takes name entry taking =>
      rcases under with held | ⟨rest, held⟩
      · obtain ⟨entry, there, kin⟩ := taking.job_after bound held lints
        exact runs there kin
      · exact tells (taking.takes.tellings.symm ▸ held)
  | works name entry engaged toil stays =>
      rcases under with held | ⟨rest, held⟩
      · obtain ⟨entry, there, kin⟩ := toil.job_after engaged.carries stays held
        exact runs there kin
      · exact tells (toil.tellings.symm ▸ held)
  | drops name entry carries ends tellings behind =>
      rcases under with held | ⟨rest, held⟩
      · -- Either it is the job that goes, or it stays.
        by_cases same : number = name
        · subst same
          obtain ⟨other, there, stage⟩ := carries
          cases held.symm.trans there
          exact Or.inr (behind.trans (Job.Kin.of_same stage).behind)
        · exact runs (by rw [ends.jobs, if_neg same, held]) (.refl job)
      · exact tells (tellings.symm ▸ held)
  | tells name finding finished ends telling free =>
      -- A lint that has come to its finding tells it from now on.
      rcases under with held | ⟨rest, held⟩
      · by_cases same : number = name
        · subst same
          obtain ⟨other, there, stage⟩ := finished.carries
          cases held.symm.trans there
          cases telling with
          | partly rest fits put =>
              have told : next.2.server.tellings.get? number = some ⟨finding.job, rest⟩ := by
                rw [put, Table.get?_put, if_pos rfl]
              exact Or.inl ⟨finding.job, Or.inr ⟨rest, told⟩, .of_same stage⟩
          | wholly formats =>
              rw [← stage.errand, lints] at formats
              cases formats
        · exact runs (by rw [ends.jobs, if_neg same, held]) (.refl job)
      · cases telling with
        | partly left fits put =>
            by_cases same : number = name
            · subst same
              obtain ⟨other, there, -⟩ := finished.carries
              rw [parted number _ held] at there
              cases there
            · exact tells (by rw [put, Table.get?_put, if_neg same, held])
        | wholly formats stdout well same => exact tells (same.symm ▸ held)
  | concludes name telling present silent behind =>
      rcases under with held | ⟨rest, held⟩
      · exact runs (silent.symm ▸ held) (.refl job)
      · by_cases same : number = name
        · subst same
          cases held.symm.trans present
          exact Or.inr behind
        · have there : next.2.server.tellings.get? number = some ⟨job, rest⟩ := by
            rw [silent]
            simp only [Turn.silence, Turn.update, Table.get?_erase]
            rw [if_neg same, held]
          exact tells there
  | stops closing stops free =>
      rcases under with held | ⟨rest, held⟩
      · have fate := stops.jobs number
        rw [held] at fate
        obtain ⟨entry, there, kin⟩ := fate.kin_after lints
        exact runs there kin
      · exact tells (stops.tellings.symm ▸ held)

/-! ## What is in hand -/

/-- Documents are in line because they were, because a message asks for them while the server
serves, or because the job before them is no longer under way. -/
theorem line_of (stride : Stride eager before next) {origin : Nat} {uris : List Uri}
    (hand : next.1 = .line origin uris) :
    before.1 = .line origin uris ∨ (∃ uri, before.1 = .line origin (uri :: uris)) ∨
      (before.1 = .message origin ∧ before.2.server.phase = .ready) ∨
      ∃ number job, Leaving number job before.2.server next.2.server ∧ job.origin = origin ∧
        job.errand = .lint uris := by
  have behind {job : Job} (hand : Hand.behind job = .line origin uris) :
      job.origin = origin ∧ job.errand = .lint uris := by
    unfold Hand.behind at hand
    split at hand
    · next errand =>
        cases hand
        exact ⟨rfl, errand⟩
    · cases hand
  cases stride with
  | aside => exact Or.inl hand
  | configure turn origin client ready =>
      cases hand
      exact Or.inr (Or.inr (Or.inl ⟨rfl, ready⟩))
  | save turn origin uri ready =>
      cases hand
      exact Or.inr (Or.inr (Or.inl ⟨rfl, ready⟩))
  | skip turn origin uri others absent =>
      cases hand
      exact Or.inr (Or.inl ⟨uri, rfl⟩)
  | drop turn name entry carries superseded =>
      obtain ⟨origin, errand⟩ := behind hand
      obtain ⟨job, there, same⟩ := carries
      have gone : ((turn.abandon name).clearInFlight name entry.document.uri).server.jobs.get? name =
          none := by
        rw [(Turn.drop_ends turn name _).jobs, if_pos rfl]
      exact Or.inr (Or.inr (Or.inr ⟨name, job,
        .dropped there gone (Turn.drop_tellings turn name _), same.origin.trans origin,
        same.errand.trans errand⟩))
  | conclude turn name telling held all =>
      obtain ⟨origin, errand⟩ := behind hand
      have gone : (turn.silence name).server.tellings.get? name = none := by
        simp [Turn.silence, Turn.update, Table.get?_erase]
      exact Or.inr (Or.inr (Or.inr ⟨name, telling.job, .concluded telling.rest held gone rfl,
        origin, errand⟩))
  | proceed turn name entry carries counts =>
      cases found : (turn.proceed name entry).2 <;> simp [found, Hand.after] at hand
  | resume turn name entry news held counts =>
      cases found : (turn.resume name entry news).2 <;> simp [found, Hand.after] at hand
  | _ => cases hand

/-- Documents in line stay there, or the first of them is passed over or linted. -/
theorem line_after (stride : Stride eager before next) {origin : Nat} {uris : List Uri}
    (hand : before.1 = .line origin uris) :
    next.1 = .line origin uris ∨ uris = [] ∨
      ∃ uri others, uris = uri :: others ∧
        ((next.1 = .line origin others ∧ before.2.server.documents.get? uri = none) ∨
          ∃ number job, Taking before next number job ∧ job.origin = origin ∧
            job.errand = .lint others ∧
            before.2.server.documents.get? uri = some job.document) := by
  cases stride with
  | aside => exact Or.inl hand
  | rest here turn idle =>
      cases hand
      exact Or.inr (Or.inl idle)
  | skip turn origin uri others absent =>
      cases hand
      exact Or.inr (Or.inr ⟨uri, others, rfl, Or.inl ⟨rfl, absent⟩⟩)
  | beginLint turn origin uri others document held =>
      cases hand
      exact Or.inr (Or.inr ⟨uri, others, rfl, Or.inr ⟨_, _, .beginLint origin others held, rfl, rfl,
        held⟩⟩)
  | _ => cases hand

end Stride

/-- The turn has not gone beyond its message. -/
def Hand.IsEarly : Hand → Prop
  | fresh => True
  | message _ => True
  | _ => False

theorem Hand.after_late (number : Nat) (finding : Option Finding) :
    ¬ (Hand.after number finding).IsEarly := by
  cases finding <;> exact id

theorem Hand.behind_late (job : Job) : ¬ (Hand.behind job).IsEarly := by
  unfold Hand.behind
  split <;> exact id

/-! ## The server -/

/-- How the server goes on in a stride: it counts upwards, it does not serve again when it is over,
and its settings change only when a message calls for it. -/
structure Onward (before next : Hand × Turn) : Prop where
  messages : before.2.server.messages ≤ next.2.server.messages
  nextJob : before.2.server.nextJob ≤ next.2.server.nextJob
  serves : before.2.server.phase ≠ .fresh → next.2.server.phase ≠ .fresh
  ended : before.2.server.phase.isOver = true → next.2.server.phase.isOver = true
  settings : before.2.server.phase ≠ .fresh → ¬ before.1.IsEarly →
    next.2.server.settings = before.2.server.settings
  early : next.1.IsEarly → before.1.IsEarly ∧
    (before.2.server.phase ≠ .fresh → next.2.server.settings = before.2.server.settings)
  message : ∀ origin, next.1 = .message origin →
    before.1 = .message origin ∨
      (before.2.server.messages ≤ origin ∧ origin < next.2.server.messages)

theorem Onward.of_steady {before next : Hand × Turn} (steady : before.2.Steady next.2)
    (nextJob : before.2.server.nextJob ≤ next.2.server.nextJob) (late : ¬ next.1.IsEarly) :
    Onward before next where
  messages := Nat.le_of_eq steady.messages.symm
  nextJob := nextJob
  serves := fun serves => by rwa [steady.phase]
  ended := fun ended => by rwa [steady.phase]
  settings := fun _ _ => steady.settings
  early := fun early => absurd early late
  message := fun origin hand => absurd (by rw [hand]; trivial) late

namespace Stride

variable {eager : Bool} {before next : Hand × Turn} {number : Nat} {job : Job}

theorem onward (stride : Stride eager before next) : Onward before next := by
  have takes {turn after : Turn} {hand : Hand} {number : Nat} {job : Job}
      (takes : Turn.Takes number job turn after) :
      Onward (hand, turn) (.taken number job, after) := by
    have numbered := takes.numbered
    have more := takes.nextJob
    exact .of_steady takes.toSteady (by simp only; omega) id
  cases stride with
  | aside hand turn next act apart =>
      exact ⟨Nat.le_of_eq apart.messages.symm, Nat.le_of_eq apart.nextJob.symm, apart.serves,
        apart.ended, fun serves _ => apart.settings serves, fun early => ⟨early, apart.settings⟩,
        fun _ => Or.inl⟩
  | count turn =>
      refine ⟨Nat.le_succ _, Nat.le_refl _, id, id, fun _ _ => rfl,
        fun _ => ⟨trivial, fun _ => rfl⟩, fun origin hand => Or.inr ?_⟩
      cases hand
      exact ⟨Nat.le_refl _, Nat.lt_succ_self _⟩
  | configure turn origin client ready =>
      exact ⟨Nat.le_refl _, Nat.le_refl _, id, id, fun _ late => absurd trivial late,
        fun early => early.elim, by rintro _ ⟨⟩⟩
  | rest hand turn idle => exact .of_steady (.refl turn) (Nat.le_refl _) id
  | save turn origin uri ready => exact .of_steady (.refl turn) (Nat.le_refl _) id
  | skip turn origin uri others absent => exact .of_steady (.refl turn) (Nat.le_refl _) id
  | spot turn number job held superseded => exact .of_steady (.refl turn) (Nat.le_refl _) id
  | renewLint turn origin document ready => exact takes (Turn.renewLint_takes turn origin document)
  | beginFormat turn origin request tabSize uri document held ready =>
      exact takes (Turn.beginFormat_takes turn origin request tabSize document)
  | beginLint turn origin uri others document held =>
      exact takes (Turn.beginLint_takes turn origin document others)
  | shutDown turn origin id closing =>
      have stops := Turn.shutDown_stops turn id
      exact .of_steady stops.toSteady (Nat.le_of_eq stops.nextJob.symm) fun early => early
  | proceed turn number job carries counts =>
      have toil := (Turn.proceed_works carries).toil
      exact .of_steady toil.toSteady (Nat.le_of_eq toil.nextJob.symm) (Hand.after_late _ _)
  | resume turn number job news held counts =>
      have toil := (Turn.resume_works (Turn.carries_of_get? held) news).toil
      exact .of_steady toil.toSteady (Nat.le_of_eq toil.nextJob.symm) (Hand.after_late _ _)
  | linger turn number job news eagerly held superseded =>
      have toil := (Turn.resume_works (Turn.carries_of_get? held) news).toil
      exact .of_steady toil.toSteady (Nat.le_of_eq toil.nextJob.symm) id
  | drop turn number job carries superseded =>
      have ends := Turn.drop_ends turn number job.document.uri
      exact .of_steady ends.toSteady (Nat.le_of_eq ends.nextJob.symm) (Hand.behind_late job)
  | finishLint turn number finding carries lints counts =>
      have ends := Turn.finishLint_ends turn number finding
      exact .of_steady ends.toSteady (Nat.le_of_eq ends.nextJob.symm) id
  | finishFormat turn number request finding carries formats =>
      have ends := Turn.finishFormat_ends turn number request finding
      exact .of_steady ends.toSteady (Nat.le_of_eq ends.nextJob.symm) id
  | conclude turn number telling held all =>
      exact .of_steady {} (Nat.le_refl _) (Hand.behind_late telling.job)

end Stride

/-! ## Deeds -/

/-- What must be so when a stride does a deed. -/
def Source (eager : Bool) (before next : Hand × Turn) : Deed → Prop
  | .effect (.start number _) => ∃ job, Engaged eager before.2 number job
  | .effect _ => True
  | .kept document => ∃ number job, Taking before next number job ∧ job.document = document
  | .closed _ => before.2.server.phase = .ready
  | .begun number document =>
      ∃ job, Taking before next number job ∧ job.errand.mode = .lint ∧ job.document = document
  | .told number finding => Finished before number finding
  | .logged .. => True
  | .considered .. => True
  | .shutDown => before.2.server.phase = .closing ∧ before.2.Stops next.2 ∧ next.1 = .free

namespace Source

variable {eager : Bool} {before next : Hand × Turn} {number : Nat} {job : Job} {deed : Deed}

theorem of_talk (talk : deed.IsTalk) : Source eager before next deed := by
  cases deed with
  | effect effect =>
      cases effect with
      | start => exact talk.elim
      | _ => trivial
  | logged => trivial
  | considered => trivial
  | _ => exact talk.elim

theorem of_aside (aside : deed.IsAside before.2.server.phase) :
    Source eager before next deed := by
  rcases aside with talk | ⟨ready, uri, rfl⟩
  · exact of_talk talk
  · exact ready

theorem of_take (taking : Taking before next number job) (take : deed.IsTake number job) :
    Source eager before next deed := by
  obtain ⟨lints, rfl | rfl⟩ := take
  · exact ⟨number, job, taking, rfl⟩
  · exact ⟨job, taking, lints, rfl⟩

theorem of_toil (engaged : Engaged eager before.2 number job) (toil : deed.IsToil number) :
    Source eager before next deed := by
  cases deed with
  | effect effect =>
      cases effect with
      | start name launch =>
          cases toil
          exact ⟨job, engaged⟩
      | _ => trivial
  | _ => exact toil.elim

end Source

namespace Stride

variable {eager : Bool} {before next : Hand × Turn} {deed : Deed}

/-- A deed was done before the stride, or there is a source for it. -/
theorem deed_of (stride : Stride eager before next) (member : deed ∈ next.2.deeds) :
    deed ∈ before.2.deeds ∨ Source eager before next deed := by
  cases stride.dealing with
  | none jobs tellings isolated deeds => exact Or.inl (deeds ▸ member)
  | aside apart => exact (apart.adds.of_mem member).imp_right .of_aside
  | takes number job taking => exact (taking.takes.adds.of_mem member).imp_right (.of_take taking)
  | works number job engaged toil stays =>
      exact (toil.adds.of_mem member).imp_right (.of_toil engaged)
  | drops number job carries ends tellings behind =>
      refine (ends.adds.of_mem member).imp_right fun kind => ?_
      rcases kind with talk | ⟨told, same, -⟩
      · exact .of_talk talk
      · cases same
  | tells number finding finished ends tells free =>
      refine (ends.adds.of_mem member).imp_right fun kind => ?_
      rcases kind with talk | ⟨told, ⟨⟩, rfl⟩
      · exact .of_talk talk
      · exact finished
  | concludes number telling held silent behind =>
      rw [silent] at member
      exact Or.inl member
  | stops closing stops free =>
      refine (stops.of_mem member).imp_right fun kind => ?_
      rcases kind with rfl | speech
      · exact ⟨closing, stops, free⟩
      · exact .of_talk speech.talk

/-- What was done stays done. -/
theorem deed_after (stride : Stride eager before next) (member : deed ∈ before.2.deeds) :
    deed ∈ next.2.deeds := by
  cases stride.dealing with
  | none jobs tellings isolated deeds => exact deeds.symm ▸ member
  | aside apart => exact apart.adds.mem member
  | takes number job taking => exact taking.takes.adds.mem member
  | works number job engaged toil stays => exact toil.adds.mem member
  | drops number job carries ends tellings behind => exact ends.adds.mem member
  | tells number finding finished ends tells free => exact ends.adds.mem member
  | concludes number telling held silent behind => exact silent.symm ▸ member
  | stops closing stops free => exact stops.adds.mem (List.mem_append_left _ member)

/-- A deed since some time was done before the stride, or there is a source for it. -/
theorem since_of (stride : Stride eager before next) {since : List Deed}
    (member : deed ∈ since ++ next.2.deeds) :
    deed ∈ since ++ before.2.deeds ∨ Source eager before next deed := by
  rcases List.mem_append.mp member with old | recent
  · exact Or.inl (List.mem_append_left _ old)
  · exact (stride.deed_of recent).imp_left (List.mem_append_right _)

theorem since_after (stride : Stride eager before next) {since : List Deed}
    (member : deed ∈ since ++ before.2.deeds) : deed ∈ since ++ next.2.deeds := by
  rcases List.mem_append.mp member with old | recent
  · exact List.mem_append_left _ old
  · exact List.mem_append_right _ (stride.deed_after recent)

/-- The environment of our own is made ready only by work on a job. -/
theorem initialized_of (stride : Stride eager before next)
    (initialized : next.2.server.isolated.initialized = true) :
    before.2.server.isolated.initialized = true ∨
      ∃ number job, Engaged eager before.2 number job := by
  cases stride.dealing with
  | none jobs tellings isolated deeds => exact Or.inl (isolated ▸ initialized)
  | aside apart => exact Or.inl (apart.initialized ▸ initialized)
  | takes number job taking => exact Or.inl (taking.takes.initialized ▸ initialized)
  | works number job engaged toil stays => exact Or.inr ⟨number, job, engaged⟩
  | drops number job carries ends tellings behind => exact Or.inl (ends.initialized ▸ initialized)
  | tells number finding finished ends tells free => exact Or.inl (ends.initialized ▸ initialized)
  | concludes number telling held silent behind =>
      rw [silent] at initialized
      exact Or.inl initialized
  | stops closing stops free =>
      rw [stops.initialized] at initialized
      cases initialized

end Stride

end TemplateLint
