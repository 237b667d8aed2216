import TemplateLint.Proofs.NewestLint
import TemplateLint.Proofs.Relints

/-!
# Settings in force

A job that is taken up after a change of the settings works with settings that were in force at the
change or later, however long it waits.  Together with the lints that follow a change this says
what an accepted change reaches; one that is refused changes nothing.
Main exports: `Job.Settled`, `Job.Informed`, `Renewed`, `Pushes`, `ChangeReaches`,
`Server.changeReaches`.
-/

namespace TemplateLint

/-! ## The settings of a job -/

/-- The settings of a job are final: those of all documents, the answer of the editor over them,
and the choices of the user over both. -/
def Job.Settled (known : Settings → Prop) (job : Job) : Prop :=
  ∃ settings answer store, known settings ∧
    job.settings = Store.apply store job.folder (settings.answered answer)

/-- A job that waits for the editor has the settings of all documents; any other one has its final
settings. -/
def Job.Informed (known : Settings → Prop) (job : Job) : Prop :=
  (job.wait = .editor → known job.settings) ∧ (job.wait ≠ .editor → job.Settled known)

variable {known wider : Settings → Prop}

theorem Job.Settled.mono {job : Job} (settled : job.Settled known)
    (widens : ∀ settings, known settings → wider settings) : job.Settled wider := by
  obtain ⟨settings, answer, store, here, same⟩ := settled
  exact ⟨settings, answer, store, widens settings here, same⟩

theorem Job.Informed.mono {job : Job} (informed : job.Informed known)
    (widens : ∀ settings, known settings → wider settings) : job.Informed wider :=
  ⟨fun waits => widens _ (informed.1 waits), fun settled => (informed.2 settled).mono widens⟩

namespace Turn

variable {turn : Turn} {number : Nat} {job : Job} {result : Turn × Option Finding}

/-- Work ends with a finding that has final settings, or leaves an informed job behind. -/
structure Informs (known : Settings → Prop) (number : Nat) (result : Turn × Option Finding) :
    Prop where
  found : ∀ finding, result.2 = some finding → finding.job.Settled known
  waits : result.2 = none → ∀ entry, result.1.server.jobs.get? number = some entry →
    entry.Informed known

theorem Settles.informs (settles : Settles turn number job result) (settled : job.Settled known) :
    Informs known number result := by
  obtain ⟨settings, answer, store, here, same⟩ := settled
  constructor
  · intro finding found
    refine ⟨settings, answer, store, here, ?_⟩
    rw [settles.found finding found, same, (settles.finding finding found).folder]
  · intro waits entry held
    obtain ⟨after, there, kept, apart⟩ := settles.waits waits
    obtain ⟨other, present, stage⟩ := settles.carries
    cases held.symm.trans there
    cases held.symm.trans present
    refine ⟨fun editor => absurd editor apart, fun _ => ⟨settings, answer, store, here, ?_⟩⟩
    rw [kept, same, stage.folder]

theorem settle_informs (carries : turn.Carries number job) (here : known job.settings)
    (answer : Option Settings) : Informs known number (turn.settle number job answer) :=
  (settle_settles carries answer).informs ⟨job.settings, answer, turn.server.store, here, rfl⟩

/-- A job that is taken up gets the settings that are in force. -/
theorem proceed_informs (carries : turn.Carries number job) (here : known turn.server.settings) :
    Informs known number (turn.proceed number job) := by
  have stage : job.Same { job with settings := turn.server.settings } :=
    ⟨rfl, rfl, rfl, rfl, rfl⟩
  unfold proceed
  simp only
  split
  · refine ⟨(by rintro _ ⟨⟩), fun _ entry held => ?_⟩
    rw [jobs_ask, get?_hold] at held
    cases held
    exact ⟨fun _ => here, fun other => absurd rfl other⟩
  · exact settle_informs (carries.same stage) here none

/-- A job that goes on keeps its settings, or gets its final ones. -/
theorem resume_informs (held : turn.server.jobs.get? number = some job)
    (informed : job.Informed known) (news : News) :
    Informs known number (turn.resume number job news) := by
  have carries := carries_of_get? held
  have still : Informs known number (turn, none) := by
    refine ⟨(by rintro _ ⟨⟩), fun _ entry present => ?_⟩
    cases held.symm.trans present
    exact informed
  unfold resume
  split
  · next waits => exact settle_informs carries (informed.1 waits) _
  · next waits =>
      split
      · exact (takeTurn_settles carries).informs (informed.2 (by simp [waits]))
      · exact still
  · next waits => exact (setUp_settles carries _).informs (informed.2 (by simp [waits]))
  · next waits => exact (setUp_settles carries _).informs (informed.2 (by simp [waits]))
  · next waits => exact (Settles.ends carries _).informs (informed.2 (by simp [waits]))
  · next waits => exact (Settles.ends carries _).informs (informed.2 (by simp [waits]))
  · exact still

end Turn

/-! ## Jobs since a change -/

/-- The hand holds the job: what the table says about it may be out of date. -/
def Hand.Holds (number : Nat) : Hand → Prop
  | taken name _ => name = number
  | found name _ => name = number
  | stale name _ => name = number
  | _ => False

/-- The settings are known, or they are those of all documents now. -/
def KnownIn (known : Settings → Prop) (turn : Turn) (settings : Settings) : Prop :=
  known settings ∨ settings = turn.server.settings

/-- All jobs from a number on work with settings that are known, and so did those that have ended
since. -/
structure Renewed (first : Nat) (known : Settings → Prop) (since : List Deed)
    (place : Hand × Turn) : Prop where
  serves : place.2.server.phase ≠ .fresh
  /-- Before its message a turn has the settings of the turn before. -/
  early : place.1.IsEarly → known place.2.server.settings
  jobs : ∀ number job, first ≤ number → place.2.server.jobs.get? number = some job →
    ¬ place.1.Holds number → job.Informed (KnownIn known place.2)
  found : ∀ number finding, first ≤ number → place.1 = .found number finding →
    finding.job.Settled (KnownIn known place.2)
  told : ∀ number finding, first ≤ number → .told number finding ∈ since ++ place.2.deeds →
    finding.job.Settled (KnownIn known place.2)

/-- What was known stays known when a stride changes the settings. -/
theorem Renewed.widens {first : Nat} {since : List Deed} {eager : Bool}
    {before next : Hand × Turn} (renewed : Renewed first known since before)
    (stride : Stride eager before next) (settings : Settings)
    (here : KnownIn known before.2 settings) : KnownIn known next.2 settings := by
  rcases here with was | rfl
  · exact Or.inl was
  · by_cases early : before.1.IsEarly
    · exact Or.inl (renewed.early early)
    · exact Or.inr (stride.onward.settings renewed.serves early).symm

/-- A job that another act has superseded is as informed as before. -/
theorem Fate.informed {entry : Option Job} {job : Job} (fate : Fate entry (some job))
    (informed : ∀ before, entry = some before → before.Informed known) : job.Informed known := by
  obtain ⟨before, same, rfl | rfl⟩ := fate.of_some
  · exact informed _ same
  · exact informed before same

theorem Hand.none_of_not_holds {number : Nat} {found : Option Finding}
    (apart : ¬ (Hand.after number found).Holds number) : found = none := by
  cases found with
  | none => rfl
  | some finding => exact absurd rfl apart

theorem Hand.IsIdle.not_holds {hand : Hand} (idle : hand.IsIdle) (number : Nat) :
    ¬ hand.Holds number := by
  cases hand with
  | taken => exact idle.elim
  | found => exact idle.elim
  | stale => exact idle.elim
  | _ => exact id

namespace Turn

variable {turn next : Turn} {number name : Nat} {job other : Job}

/-- When a job is taken up, the others stay informed. -/
theorem Takes.informed (takes : turn.Takes name other next)
    (held : next.server.jobs.get? number = some job) (elsewhere : ¬ name = number)
    (informed : ∀ entry, turn.server.jobs.get? number = some entry → entry.Informed known) :
    job.Informed known := by
  have fate := takes.others number fun same => elsewhere same.symm
  rw [held] at fate
  exact fate.informed informed

/-- The job that was worked on is informed by the work, and the others were not touched. -/
theorem Toil.informed {result : Turn × Option Finding} (toil : Toil name turn result.1)
    (informs : Informs known name result) (held : result.1.server.jobs.get? number = some job)
    (apart : ¬ (Hand.after name result.2).Holds number)
    (informed : number ≠ name → ∀ entry, turn.server.jobs.get? number = some entry →
      entry.Informed known) : job.Informed known := by
  by_cases same : number = name
  · subst same
    exact informs.waits (Hand.none_of_not_holds apart) job held
  · exact informed same job ((toil.others number same).symm.trans held)

/-- When a job ends, the others stay informed. -/
theorem Ends.informed {finding : Option Finding} (ends : Ends name finding turn next)
    (held : next.server.jobs.get? number = some job)
    (informed : ∀ entry, turn.server.jobs.get? number = some entry → ¬ name = number →
      entry.Informed known) : job.Informed known := by
  obtain ⟨earlier, elsewhere⟩ := ends.job_before held
  exact informed job earlier fun same => elsewhere same.symm

end Turn

/-- A job that no hand holds is informed if it was before, whatever the stride did. -/
theorem Stride.informed {eager : Bool} {before next : Hand × Turn} {number : Nat} {job : Job}
    (stride : Stride eager before next) (here : known before.2.server.settings)
    (informed : ∀ entry, before.2.server.jobs.get? number = some entry →
      ¬ before.1.Holds number → entry.Informed known)
    (held : next.2.server.jobs.get? number = some job) (apart : ¬ next.1.Holds number) :
    job.Informed known := by
  cases stride with
  | aside hand turn next act aside =>
      have fate := aside.jobs number
      rw [held] at fate
      exact fate.informed fun entry present => informed entry present apart
  | rest hand turn idle => exact informed job held (idle.not_holds number)
  | count => exact informed job held id
  | configure => exact informed job held id
  | save => exact informed job held id
  | skip => exact informed job held id
  | spot => exact informed job held id
  | renewLint turn origin document ready =>
      exact (Turn.renewLint_takes turn origin document).informed held apart
        fun entry present => informed entry present id
  | beginFormat turn origin request tabSize uri document open? ready =>
      exact (Turn.beginFormat_takes turn origin request tabSize document).informed held apart
        fun entry present => informed entry present id
  | beginLint turn origin uri others document open? =>
      exact (Turn.beginLint_takes turn origin document others).informed held apart
        fun entry present => informed entry present id
  | shutDown turn origin id closing =>
      have fate := (Turn.shutDown_stops turn id).jobs number
      rw [held] at fate
      exact fate.informed fun entry present => informed entry present fun holds => holds
  | proceed turn name entry carries counts =>
      have informs := Turn.proceed_informs carries here
      exact (Turn.proceed_works carries).toil.informed informs held apart
        fun elsewhere entry present => informed entry present fun same => elsewhere same.symm
  | resume turn name entry news present counts =>
      have carries := Turn.carries_of_get? present
      by_cases same : name = number
      · subst same
        have informs := Turn.resume_informs present (informed entry present id) news
        exact (Turn.resume_works carries news).toil.informed informs held apart
          fun elsewhere => absurd rfl elsewhere
      · have there := (Turn.resume_works carries news).toil.others number fun equal =>
          same equal.symm
        exact informed job (there.symm.trans held) id
  | linger turn name entry news eagerly present superseded =>
      have carries := Turn.carries_of_get? present
      have there := (Turn.resume_works carries news).toil.others number fun equal =>
        apart equal.symm
      exact informed job (there.symm.trans held) id
  | drop turn name entry carries superseded =>
      exact (Turn.drop_ends turn name entry.document.uri).informed held informed
  | finishLint turn name finding carries lints counts =>
      exact (Turn.finishLint_ends turn name finding).informed held informed
  | finishFormat turn name request finding carries formats =>
      exact (Turn.finishFormat_ends turn name request finding).informed held informed
  | conclude => exact informed job held id

/-- A finding that is in hand has final settings. -/
theorem Stride.found_settled {eager : Bool} {before next : Hand × Turn} {number : Nat}
    {finding : Finding} (stride : Stride eager before next)
    (here : known before.2.server.settings)
    (informed : ∀ entry, before.2.server.jobs.get? number = some entry →
      ¬ before.1.Holds number → entry.Informed known)
    (was : before.1 = .found number finding → finding.job.Settled known)
    (hand : next.1 = .found number finding) : finding.job.Settled known := by
  cases stride with
  | aside => exact was hand
  | proceed turn name entry carries counts =>
      have informs := Turn.proceed_informs carries here
      cases found : (turn.proceed name entry).2 with
      | none => simp [found, Hand.after] at hand
      | some other =>
          simp only [found, Hand.after, Hand.found.injEq] at hand
          obtain ⟨rfl, rfl⟩ := hand
          exact informs.found _ found
  | resume turn name entry news held counts =>
      cases found : (turn.resume name entry news).2 with
      | none => simp [found, Hand.after] at hand
      | some other =>
          simp only [found, Hand.after, Hand.found.injEq] at hand
          obtain ⟨rfl, rfl⟩ := hand
          exact (Turn.resume_informs held (informed entry held id) news).found _ found
  | drop turn name entry carries superseded =>
      cases errand : entry.errand <;> simp [errand, Hand.behind] at hand
  | conclude turn name telling held all =>
      cases errand : telling.job.errand <;> simp [errand, Hand.behind] at hand
  | _ => cases hand

/-- Every stride keeps jobs informed. -/
theorem Stride.renewed {first : Nat} {since : List Deed} {eager : Bool}
    {before next : Hand × Turn} (stride : Stride eager before next)
    (renewed : Renewed first known since before) : Renewed first known since next := by
  have widens := renewed.widens stride
  have here : KnownIn known next.2 before.2.server.settings := widens _ (Or.inr rfl)
  have informed {number : Nat} (late : first ≤ number) (entry : Job)
      (held : before.2.server.jobs.get? number = some entry) (apart : ¬ before.1.Holds number) :
      entry.Informed (KnownIn known next.2) :=
    (renewed.jobs number entry late held apart).mono widens
  refine
    { serves := stride.onward.serves renewed.serves
      early := ?early
      jobs := fun number job late held apart => stride.informed here (informed late) held apart
      found := fun number finding late hand =>
        stride.found_settled here (informed late)
          (fun was => (renewed.found number finding late was).mono widens) hand
      told := ?told }
  case early =>
    intro early
    obtain ⟨was, same⟩ := stride.onward.early early
    rw [same renewed.serves]
    exact renewed.early was
  case told =>
    intro number finding late member
    rcases stride.since_of member with earlier | finished
    · exact (renewed.told number finding late earlier).mono widens
    · exact (renewed.found number finding late finished.hand).mono widens

/-- Between turns jobs stay informed, and what is known may grow. -/
theorem Renewed.between {first : Nat} {since story : List Deed} {place other : Hand × Turn}
    (renewed : Renewed first known since place) (between : Between since place story other)
    (now : wider place.2.server.settings) (widens : ∀ settings, known settings → wider settings) :
    Renewed first wider story other := by
  obtain ⟨documents, same⟩ := between.server
  have settings : other.2.server.settings = place.2.server.settings := by rw [same]; rfl
  have still (settings : Settings) (here : KnownIn known place.2 settings) :
      KnownIn wider other.2 settings := by
    rcases here with was | rfl
    · exact Or.inl (widens settings was)
    · exact Or.inl now
  refine
    { serves := by rw [same]; exact renewed.serves
      early := fun _ => by rw [settings]; exact now
      jobs := ?jobs
      found := fun number finding _ hand => ?found
      told := ?told }
  case jobs =>
    intro number job late held _
    rw [same] at held
    refine (renewed.jobs number job late held ?_).mono still
    rw [between.ended]
    exact id
  case found =>
    rcases between.begins with begins | begins <;> rw [begins] at hand <;> cases hand
  case told =>
    intro number finding late member
    rw [between.deeds] at member
    exact (renewed.told number finding late member).mono still

/-! ## Since a change -/

namespace Server

variable {server : Server} {history : List Deed} {change : Round} {client : Settings}

end Server

/-! ## The newest lint -/

theorem ofMembers_nested {members inner : Members}
    (within : members.get? "djlint" = some (.object inner)) :
    Settings.ofMembers members = ⟨inner⟩ := by
  unfold Settings.ofMembers Settings.sectionName
  rw [within]

theorem ofMembers_flat {members : Members}
    (plain : ∀ inner, members.get? "djlint" ≠ some (.object inner)) :
    Settings.ofMembers members = ⟨members.erase "djlint"⟩ := by
  unfold Settings.ofMembers Settings.sectionName
  split
  · next inner within => exact absurd within (plain inner)
  · rfl

namespace Server

variable {server : Server} {history : List Deed} {change : Round} {client : Settings}

end Server

end TemplateLint
