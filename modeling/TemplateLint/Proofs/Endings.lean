import TemplateLint.Proofs.Courses

/-!
# What jobs come to

A job comes to the output, or to the failure, that the end of its tool amounts to, and it is told in
the turn of that event.  What is told otherwise is of a job for which no tool was run: it was not
wanted, or there was nothing to run it with.
Main exports: `Finding.IsUntried`, `Finding.Reflects`, `Turn.step_reflects`, `Turn.step_ended`,
`Server.course_told`.
-/

namespace TemplateLint

/-! ## Findings without a run -/

/-- No tool was run for the finding: there is no output, or a failure without a report of a run. -/
def Finding.IsUntried (finding : Finding) : Prop :=
  match finding.output with
  | .ok output => output = none
  | .error failure => failure.report? = none

/-- If the setup fails, it is not a run of the tool that does. -/
def SetupStep.IsPlain : SetupStep → Prop
  | failed failure => failure.report? = none
  | _ => True

namespace Setup

theorem probe_plain (names : List String) : (probe names).IsPlain := by
  cases names with
  | nil => rfl
  | cons candidate others => trivial

theorem create_plain (venv : Path) (disk : Disk) : (create venv disk).IsPlain := by
  unfold create
  split
  · trivial
  · exact probe_plain candidates

/-- However the setup begins, it is no run of the tool that fails. -/
theorem begin_plain (venv : Path) (disk : Disk) : (begin venv disk).IsPlain := by
  unfold begin
  split
  · trivial
  · exact create_plain venv disk

theorem cleared_plain (venv : Path) (result : Except IoError Unit) :
    (cleared venv result).IsPlain := by
  cases result with
  | ok removed => exact probe_plain candidates
  | error reason => rfl

theorem resume_plain (venv : Path) (stage : Setup) (result : CommandResult) (disk : Disk) :
    (resume venv stage result disk).IsPlain := by
  unfold resume
  split
  case h_2 => exact create_plain venv disk
  case h_4 => exact probe_plain _
  all_goals trivial

end Setup

/-- No interpreter is chosen because of the settings and of what is there, not of a run. -/
theorem choose_untried {settings : Settings} {lookup : Lookup} {failure : Failure}
    (failed : choose settings lookup = .failed failure) : failure.report? = none := by
  have without (failed : Choice.withoutEnvironment settings = .failed failure) :
      failure.report? = none := by
    unfold Choice.withoutEnvironment at failed
    split at failed
    · cases failed
    · split at failed
      · cases failed
      · cases failed
        rfl
  unfold choose at failed
  split at failed
  · split at failed
    · cases failed
    · cases failed
      rfl
    · exact without failed
  · exact without failed

namespace Turn

/-- The work has come to no run of the tool: the job waits, or its finding is untried. -/
def Yields (result : Turn × Option Finding) : Prop :=
  ∀ finding, result.2 = some finding → finding.IsUntried

section untried

variable (turn : Turn) (number : Nat) (job : Job)

/-- A tool that cannot be started is the failure of no run. -/
theorem runTool_yields (python : Path) : Yields (turn.runTool number job python) := by
  unfold runTool
  simp only
  split
  · rintro finding ⟨⟩
  · rintro finding ⟨⟩
    rfl

/-- While the environment is set up no tool has run. -/
theorem setUp_yields {step : SetupStep} (plain : step.IsPlain) :
    Yields (turn.setUp number job step) := by
  fun_induction turn.setUp number job step with
  | case1 venv stage launch launched => rintro finding ⟨⟩
  | case2 venv stage reason refused inductionHypothesis =>
      exact inductionHypothesis (Setup.resume_plain _ _ _ _)
  | case3 => rintro finding ⟨⟩
  | case4 => exact runTool_yields _ _ _ _
  | case5 failure =>
      rintro finding ⟨⟩
      exact plain

theorem takeTurn_yields : Yields (turn.takeTurn number job) := by
  unfold takeTurn
  split
  · exact runTool_yields _ number job _
  · exact setUp_yields turn number job (Setup.begin_plain _ _)

/-- A finding before the tool is of no run. -/
theorem invoke_yields : Yields (turn.invoke number job) := by
  unfold invoke
  split
  · split
    · exact runTool_yields turn number job _
    · unfold enterIsolated
      simp only
      split
      · exact runTool_yields turn number job _
      · split
        · rintro finding ⟨⟩
        · exact takeTurn_yields _ number job
    · next failed =>
        rintro finding ⟨⟩
        exact choose_untried failed
  · rintro finding ⟨⟩
    rfl

theorem proceed_yields : Yields (turn.proceed number job) := by
  unfold proceed
  simp only
  split
  · rintro finding ⟨⟩
  · exact invoke_yields turn number _

end untried

end Turn

/-! ## Where findings come from -/

/-- What the job has come to is what the end of its tool amounts to, and that was the event; or no
tool was run for it. -/
def Finding.Reflects (finding : Finding) (event : Event) (number : Nat) : Prop :=
  (∃ outcome python, event = .ended number (.finished outcome) ∧
    finding.job.wait = .tool python ∧
    finding.output =
      (conclude (finding.job.command python) (ToolOutput.ofOutcome outcome)).map some) ∨
    finding.IsUntried

/-- What is told on an event reflects it. -/
def Deed.Reflects (event : Event) : Deed → Prop
  | .told number finding => finding.Reflects event number
  | _ => True

/-- What has been found on an event reflects it. -/
def Hand.Reflects (event : Event) : Hand → Prop
  | .fresh => False
  | .found number finding => finding.Reflects event number
  | _ => True

section reflects

variable {event : Event} {turn next : Turn} {number : Nat} {eager : Bool}

/-- Talk tells no finding. -/
theorem Deed.IsTalk.reflects {deed : Deed} (talk : deed.IsTalk) : deed.Reflects event := by
  cases deed with
  | told number finding => exact talk.elim
  | _ => trivial

theorem Hand.behind_reflects (job : Job) : (Hand.behind job).Reflects event := by
  unfold Hand.behind
  split
  · trivial
  · trivial

namespace Turn

theorem after_reflects {result : Turn × Option Finding}
    (found : ∀ finding, result.2 = some finding → finding.Reflects event number) :
    (Hand.after number result.2).Reflects event := by
  obtain ⟨turn, - | finding⟩ := result
  · trivial
  · exact found finding rfl

theorem Toil.reflects (toil : Toil number turn next) : Adds (Deed.Reflects event) turn next := by
  refine toil.adds.mono fun deed kind => ?_
  cases deed with
  | told number finding => exact kind.elim
  | _ => trivial

theorem Takes.reflects {job : Job} (takes : Takes number job turn next) :
    Adds (Deed.Reflects event) turn next := by
  refine takes.adds.mono ?_
  rintro deed ⟨-, rfl | rfl⟩
  · trivial
  · trivial

theorem Apart.reflects (apart : Apart turn next) : Adds (Deed.Reflects event) turn next := by
  refine apart.adds.mono ?_
  rintro deed (talk | ⟨-, uri, rfl⟩)
  · exact talk.reflects
  · trivial

/-- A job that ends tells what its finding reflects, and nothing else. -/
theorem Ends.reflects {finding : Option Finding} (ends : Ends number finding turn next)
    (found : ∀ told, finding = some told → told.Reflects event number) :
    Adds (Deed.Reflects event) turn next := by
  refine ends.adds.mono ?_
  rintro deed (talk | ⟨told, same, rfl⟩)
  · exact talk.reflects
  · exact found told same

end Turn

open Turn in
/-- Nothing that goes on from what is in hand brings a run of its own. -/
theorem Stride.reflects {before next : Hand × Turn} (stride : Stride eager before next)
    (hand : before.1.Reflects event) :
    next.1.Reflects event ∧ Adds (Deed.Reflects event) before.2 next.2 := by
  cases stride with
  | aside _ turn next act apart => exact ⟨hand, apart.reflects⟩
  | rest => exact ⟨trivial, .none rfl⟩
  | count => exact hand.elim
  | configure => exact ⟨trivial, .none rfl⟩
  | save => exact ⟨trivial, .none rfl⟩
  | renewLint turn origin document => exact ⟨trivial, (renewLint_takes _ _ _).reflects⟩
  | beginFormat => exact ⟨trivial, (beginFormat_takes _ _ _ _ _).reflects⟩
  | shutDown turn origin id closing =>
      obtain ⟨more, same, speech⟩ := (shutDown_stops turn id).adds
      refine ⟨trivial, .shutDown :: more, by rw [same]; simp [note], ?_⟩
      rintro deed (_ | ⟨_, member⟩)
      · trivial
      · exact (speech deed member).talk.reflects
  | skip => exact ⟨trivial, .none rfl⟩
  | beginLint => exact ⟨trivial, (beginLint_takes _ _ _ _).reflects⟩
  | proceed turn number job carries =>
      refine ⟨after_reflects fun finding found => Or.inr ?_, (proceed_works carries).toil.reflects⟩
      exact proceed_yields turn number job finding found
  | resume => exact hand.elim
  | linger => exact hand.elim
  | spot => exact hand.elim
  | drop turn number job carries =>
      exact ⟨Hand.behind_reflects job, (drop_ends turn number _).reflects (by rintro _ ⟨⟩)⟩
  | finishLint turn number finding =>
      exact ⟨trivial, (finishLint_ends turn number finding).reflects (by rintro _ ⟨⟩; exact hand)⟩
  | finishFormat turn number request finding =>
      exact ⟨trivial, (finishFormat_ends turn number request finding).reflects
        (by rintro _ ⟨⟩; exact hand)⟩
  | conclude => exact hand.elim

/-- And so stride by stride. -/
theorem Strides.reflects {before next : Hand × Turn} (strides : Strides eager before next)
    (hand : before.1.Reflects event) : Turn.Adds (Deed.Reflects event) before.2 next.2 := by
  have both : next.1.Reflects event ∧ Turn.Adds (Deed.Reflects event) before.2 next.2 := by
    induction strides with
    | refl => exact ⟨hand, .none rfl⟩
    | tail earlier stride inductionHypothesis =>
        obtain ⟨held, adds⟩ := inductionHypothesis
        obtain ⟨rest, more⟩ := stride.reflects held
        exact ⟨rest, adds.trans more⟩
  exact both.2

/-! ## On an event -/

namespace Turn

/-- A job that goes on after some news comes to a finding of its tool only if that has just
ended. -/
theorem resume_reflects (turn : Turn) (job : Job) {news : News}
    (ended : ∀ result, news = .result result → event = .ended number result) (finding : Finding)
    (found : (turn.resume number job news).2 = some finding) : finding.Reflects event number := by
  have yields {result : Turn × Option Finding} (yields : Yields result)
      (found : result.2 = some finding) : finding.Reflects event number :=
    Or.inr (yields finding found)
  unfold resume at found
  split at found
  · exact yields (invoke_yields turn number _) found
  · split at found
    · exact yields (takeTurn_yields turn number job) found
    · cases found
  · exact yields (setUp_yields turn number job (Setup.resume_plain _ _ _ _)) found
  · exact yields (setUp_yields turn number job (Setup.cleared_plain _ _)) found
  · next python outcome waits =>
      cases found
      exact Or.inl ⟨outcome, python, ended _ rfl, waits, rfl⟩
  · cases found
    exact Or.inr rfl
  · cases found

/-- News of a program is all that a finding of its job can reflect. -/
theorem deliver_reflects (turn : Turn) {news : News} (eager : Bool)
    (ended : ∀ result, news = .result result → event = .ended number result) :
    Adds (Deed.Reflects event) turn (turn.deliver number news eager) := by
  unfold deliver
  split
  · exact .none rfl
  · next job held =>
      have carries := carries_of_get? held
      have works := resume_works carries news
      split
      · exact .none rfl
      · split
        · next superseded =>
            cases eager with
            | false =>
                have dropped : Strides false (.stale number job, turn) (.free, _) :=
                  dropLint_strides carries superseded
                exact dropped.reflects trivial
            | true =>
                have dropped : Strides false (.stale number job, _) (.free, _) :=
                  dropLint_strides works.carries superseded
                exact works.toil.reflects.trans (dropped.reflects trivial)
        · next counts =>
            have finished : Strides false (.after number (turn.resume number job news).2, _)
                (.free, _) := finishIfDone_strides works (by simpa using counts)
            exact works.toil.reflects.trans
              (finished.reflects (after_reflects (turn.resume_reflects job ended)))

theorem conclude_reflects (turn : Turn) (number : Nat) (job : Job) :
    Adds (Deed.Reflects event) turn (turn.conclude number job) := by
  have silent : Adds (Deed.Reflects event) turn (turn.silence number) := .none rfl
  unfold conclude
  split
  · next others errand =>
      have lints : Strides false (.line job.origin others, turn.silence number) (.free, _) :=
        lintAll_strides _ _ _
      exact silent.trans (lints.reflects trivial)
  · exact silent.trans (Speaks.reply _ _ _).apart.reflects

/-- A job that tells brings no finding. -/
theorem wake_reflects (turn : Turn) (number : Nat) (eager : Bool) :
    Adds (Deed.Reflects event) turn (turn.wake number eager) := by
  have talks {next : Turn} (talks : Talks turn next) : Adds (Deed.Reflects event) turn next :=
    talks.adds.mono fun _ => Deed.IsTalk.reflects
  unfold wake
  split
  · unfold tellOn
    split
    · exact conclude_reflects turn number _
    · exact talks (.report turn number _ _)
    · exact (talks (Talks.popUp turn number _ _).1).trans (conclude_reflects _ number _)
  · exact deliver_reflects turn eager (by rintro _ ⟨⟩)

/-- A message ends no program: what is told on it is of no run. -/
theorem receiveMessage_reflects (keyed : turn.server.Keyed) (message : Message) :
    Adds (Deed.Reflects event) turn (turn.receiveMessage message) := by
  have handled {next : Turn}
      (leads : Leads false (.message turn.server.messages) (turn.update fun server =>
        { server with messages := turn.server.messages + 1 }) next) :
      Adds (Deed.Reflects event) turn next :=
    Adds.trans (.none rfl) (Strides.reflects leads trivial)
  unfold receiveMessage
  simp only
  split
  · exact handled (receiveBeginning_strides _ _ _)
  · exact handled (receiveShutdown_strides _ _ _)
  · exact handled (receiveExit_strides _ _)
  · exact handled (receiveCancel_strides _ _ _)
  · exact handled (receiveFormatting_strides _ _ _)
  · split
    · refine handled (receiveNotification_strides ?_ _ _ _)
      exact keyed
    · exact handled (receiveUnoffered_strides _ _ _ _)
    · exact handled (receiveUnknown_strides _ _ _)

/-- Whatever is told on an event is what the tool that the event is about has come to, or of a job
for which no tool was run. -/
theorem step_reflects (keyed : turn.server.Keyed) (event : Event) (eager : Bool) :
    Adds (Deed.Reflects event) turn (turn.step event eager) := by
  cases event with
  | received incoming =>
      cases incoming with
      | message message =>
          simp only [step, receive]
          split
          · exact .none rfl
          · exact receiveMessage_reflects keyed message
      | answer id result =>
          simp only [step, receive]
          unfold receiveAnswer
          split
          · simp only
            split
            · exact .none rfl
            · split
              · exact Adds.trans (.none rfl) (deliver_reflects _ eager (by rintro _ ⟨⟩))
              · split
                · exact Adds.trans (.none rfl) (Apart.choose _ _ _ _).reflects
                · exact .none rfl
          · exact .none rfl
  | ended job result => exact deliver_reflects turn eager (by rintro _ ⟨⟩; rfl)
  | removed job result => exact deliver_reflects turn eager (by rintro _ ⟨⟩)
  | woken job => exact wake_reflects turn job eager

/-- When the tool of a job that counts ends, the job is finished with what that amounts to. -/
theorem step_ended {server : Server} {job : Job} {python : Path} {outcome : Outcome}
    (held : server.jobs.get? number = some job) (waits : job.wait = .tool python)
    (counts : job.superseded = false) (disk : Disk) (eager : Bool) :
    server.step disk (.ended number (.finished outcome)) eager =
      Turn.finish ⟨server, disk, []⟩ number
        ⟨job, (TemplateLint.conclude (job.command python)
          (ToolOutput.ofOutcome outcome)).map some⟩ := by
  have heeded (turn : Turn) : turn.heeds number job (.result (.finished outcome)) = true := by
    simp [heeds, waits, Wait.isRunning]
  simp only [Server.step, step, deliver, held, heeded, counts]
  simp only [resume, waits, concludeAttempt, finishIfDone]
  rfl

/-- What a job came to is told when it is finished. -/
theorem finish_tells (turn : Turn) (number : Nat) (finding : Finding) :
    .told number finding ∈ (turn.finish number finding).deeds := by
  unfold finish
  split
  · refine (Talks.tellLint _ number finding).adds.mem ?_
    simp [note]
  · refine (Talks.tellFormat _ number _ finding).adds.mem ?_
    simp [note]

end Turn

end reflects

/-! ## In a course -/

namespace Server

variable {server : Server} {history : List Deed} {number : Nat} {finding : Finding}

/-- What is told in a turn reflects its event. -/
theorem turnIn_reflects (sound : Sound server history) (round : Round)
    (told : .told number finding ∈ (server.turnIn round).deeds) :
    finding.Reflects round.event number := by
  have keyed := (arranged_sound sound round.rank).keyed
  have adds : Turn.Adds (Deed.Reflects round.event)
      ⟨server.arranged round.rank, round.disk, []⟩ (server.turnIn round) :=
    Turn.step_reflects keyed round.event round.eager
  have reflects : (Deed.told number finding).Reflects round.event :=
    (adds.of_mem told).resolve_left (by rintro ⟨⟩)
  exact reflects

/-- What has been told in a course was told in a turn, and reflects its event. -/
theorem course_told (sound : Sound server []) (rounds : List Round)
    (told : .told number finding ∈ (server.course rounds).2) :
    ∃ first round later, rounds = first ++ round :: later ∧
      .told number finding ∈ ((server.course first).1.turnIn round).deeds ∧
      finding.Reflects round.event number := by
  induction rounds using List.reverseRecOn with
  | nil => cases told
  | append_singleton rounds round inductionHypothesis =>
      rw [course_concat] at told
      rcases List.mem_append.mp told with before | here
      · obtain ⟨first, other, later, rfl, there, reflects⟩ := inductionHypothesis before
        exact ⟨first, other, later ++ [round], by simp, there, reflects⟩
      · exact ⟨rounds, round, [], rfl, here, turnIn_reflects (course_sound sound rounds) round here⟩

end Server

end TemplateLint
