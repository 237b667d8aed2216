import TemplateLint.Cli.Run
import TemplateLint.Proofs.Endings
import TemplateLint.Proofs.Phrases

/-!
# When a run counts as an answer

A run that ended with a code of its own counts as an answer when its error stream tells of progress
somewhere, even if it tells of anything else besides: this is the one way in which a run that
failed is taken for an answer.  In every other case a failure stays one: no edit is made, an editor
is answered with nothing once the failure has been logged, and no file is written.
Main exports: `OnlyProgress`, `ToolOutput.Sanctioned`, `ToolOutput.Mixed`, `FailsClosed`,
`failsClosed`.
-/

namespace TemplateLint

/-! ## Progress -/

/-- The line tells something. -/
def IsFilled (line : List Char) : Prop :=
  ∃ c ∈ line, Text.isBlank c = false

/-- The error stream holds progress and nothing else: so does every line that is not blank. -/
def OnlyProgress (stderr : String) : Prop :=
  (∃ line ∈ Report.lines stderr, IsFilled line) ∧
    ∀ line ∈ Report.lines stderr, IsFilled line → Verdict.progress.Occurs line

theorem progress_definite : Text.Phrase.IsDefinite Verdict.progress = true := by decide

theorem infix_intercalate {gap line : List Char} {lines : List (List Char)}
    (member : line ∈ lines) : line <:+: gap.intercalate lines := by
  induction lines with
  | nil => cases member
  | cons first rest inductionHypothesis =>
      cases rest with
      | nil =>
          rcases List.mem_singleton.mp member with rfl
          exact List.intercalate_singleton.symm ▸ List.infix_rfl
      | cons next rest =>
          rw [List.intercalate_cons_cons]
          rcases List.mem_cons.mp member with rfl | later
          · exact ⟨[], gap ++ gap.intercalate (next :: rest), by simp⟩
          · exact (inductionHypothesis later).trans ⟨first ++ gap, [], by simp⟩

/-- A line is part of its text. -/
theorem part_of_mem_lines {text : String} {line : List Char} (member : line ∈ Report.lines text) :
    line <:+: text.toList := by
  have whole : ['\n'].intercalate (Report.lines text) = text.toList :=
    List.intercalate_splitOn '\n'
  rw [← whole]
  exact infix_intercalate member

theorem Text.Phrase.Occurs.of_part {phrase : Text.Phrase} {line text : List Char}
    (occurs : phrase.Occurs line) (part : line <:+: text) : phrase.Occurs text := by
  obtain ⟨before, here, after, rfl, spells⟩ := occurs
  obtain ⟨front, back, rfl⟩ := part
  exact ⟨front ++ before, here, after ++ back, by simp, spells⟩

/-- An error stream that holds nothing but progress holds progress. -/
theorem OnlyProgress.occurs {stderr : String} (only : OnlyProgress stderr) :
    Verdict.progress.Occurs stderr.toList := by
  obtain ⟨⟨line, member, filled⟩, all⟩ := only
  exact (all line member filled).of_part (part_of_mem_lines member)

theorem Verdict.ofText_eq_harmless {stderr : String} :
    Verdict.ofText stderr = .harmless ↔ stderr = "" ∨ Verdict.progress.Occurs stderr.toList := by
  rw [← Text.Phrase.occursIn_iff progress_definite]
  unfold ofText
  simp only
  split
  · next harmless => exact ⟨fun _ => harmless, fun _ => rfl⟩
  · next harmful =>
      constructor
      · intro judged
        split at judged
        · cases judged
        · split at judged <;> cases judged
      · intro harmless
        exact absurd harmless harmful

/-! ## The end of a run -/

namespace ToolOutput

/-- The run ended with code zero, or with another code but without a complaint: its error stream
is empty or holds nothing but progress. -/
def Sanctioned (output : ToolOutput) : Prop :=
  output.exitCode = some 0 ∨
    ∃ code, output.exitCode = some code ∧ (output.stderr = "" ∨ OnlyProgress output.stderr)

/-- The run ended with a code other than zero, and its error stream tells of progress and of
something else. -/
def Mixed (output : ToolOutput) : Prop :=
  ∃ code, output.exitCode = some code ∧ code ≠ 0 ∧ Verdict.progress.Occurs output.stderr.toList ∧
    ¬ OnlyProgress output.stderr

end ToolOutput

theorem success_iff {output : ToolOutput} : output.success = true ↔ output.exitCode = some 0 := by
  simp [ToolOutput.success]

theorem ofReport?_eq_none {python : Path} {report : FailureReport} :
    Failure.ofReport? python report = none ↔
      ∃ code, report.exitCode = some code ∧
        (report.stderr = "" ∨ Verdict.progress.Occurs report.stderr.toList) := by
  rw [← Verdict.ofText_eq_harmless, Failure.ofReport?]
  cases report.exitCode with
  | none => simp
  | some code =>
      cases Verdict.ofText report.stderr <;> simp

/-- A run is taken for an answer when it is sanctioned, and when it mixes progress with something
else; the answer is what it printed. -/
theorem conclude_eq_ok {command : Command} {output : ToolOutput} {text : String} :
    conclude command output = .ok text ↔
      text = output.stdout ∧ (output.Sanctioned ∨ output.Mixed) := by
  have judged : output.Sanctioned ∨ output.Mixed ↔
      output.exitCode = some 0 ∨
        Failure.ofReport? command.program (command.report output) = none := by
    rw [ofReport?_eq_none]
    constructor
    · rintro ((zero | ⟨code, ended, empty | only⟩) | ⟨code, ended, -, occurs, -⟩)
      · exact Or.inl zero
      · exact Or.inr ⟨code, ended, Or.inl empty⟩
      · exact Or.inr ⟨code, ended, Or.inr only.occurs⟩
      · exact Or.inr ⟨code, ended, Or.inr occurs⟩
    · rintro (zero | ⟨code, ended, empty | occurs⟩)
      · exact Or.inl (Or.inl zero)
      · exact Or.inl (Or.inr ⟨code, ended, Or.inl empty⟩)
      · by_cases only : OnlyProgress output.stderr
        · exact Or.inl (Or.inr ⟨code, ended, Or.inr only⟩)
        · by_cases zero : code = 0
          · exact Or.inl (Or.inl (zero ▸ ended))
          · exact Or.inr ⟨code, ended, zero, occurs, only⟩
  rw [judged, ← success_iff, conclude]
  by_cases success : output.success = true
  · simp [success, eq_comm]
  · cases failure : Failure.ofReport? command.program (command.report output) with
    | none => simp [success, eq_comm]
    | some reason => simp [success]

/-! ## What becomes of the answer -/

namespace Host

variable {host : Host} {locator : Locator} {invocation : Invocation} {mode : Mode}
  {world middle after : World}

/-- Once the tool has been started, its end decides. -/
theorem run_started {interpreter : Interpreter} {outcome : Outcome}
    (resolved : host.resolve locator invocation world = (.ok interpreter, middle))
    (started : host.start (invocation.command mode interpreter.path) middle =
      (.ok outcome, after)) :
    host.run locator invocation mode world =
      (conclude (invocation.command mode interpreter.path) (ToolOutput.ofOutcome outcome),
        after) := by
  rw [run, resolved]
  simp only [started, concludeAttempt]

/-- An answer comes from a tool that was started. -/
theorem started_of_run {text : String}
    (answered : host.run locator invocation mode world = (.ok text, after)) :
    ∃ interpreter middle outcome,
      host.resolve locator invocation world = (.ok interpreter, middle) ∧
        host.start (invocation.command mode interpreter.path) middle = (.ok outcome, after) ∧
        conclude (invocation.command mode interpreter.path) (ToolOutput.ofOutcome outcome) =
          .ok text := by
  unfold run at answered
  split at answered
  · cases answered
  · next interpreter middle resolved =>
      simp only at answered
      generalize launch : host.start (invocation.command mode interpreter.path) middle = result
        at answered
      obtain ⟨attempt, left⟩ := result
      obtain ⟨concluded, rfl⟩ := Prod.mk.inj answered
      cases attempt with
      | error reason => cases concluded
      | ok outcome => exact ⟨interpreter, middle, outcome, resolved, launch, concluded⟩

/-- A failure makes no edit. -/
theorem formatDocument_of_error {failure : Failure}
    (failed : host.run locator invocation .format world = (.error failure, after)) :
    (host.formatDocument locator invocation world).1 =
      if invocation.shouldFormat then .error failure else .ok [] := by
  unfold formatDocument formatText
  rw [failed]
  split <;> rfl

end Host

namespace Cli

/-- Sources that went well are followed by the others. -/
theorem formatSources_append {session : Session} {check : Bool} {settings : Settings}
    {progress reached : Progress} {world middle : World} {before : List Source}
    (well : formatSources session check settings progress world before = ((reached, none), middle))
    (rest : List Source) :
    formatSources session check settings progress world (before ++ rest) =
      formatSources session check settings reached middle rest := by
  induction before generalizing progress world with
  | nil =>
      cases well
      rfl
  | cons source before inductionHypothesis =>
      rw [List.cons_append]
      rw [formatSources] at well ⊢
      generalize session.host.formatText .active (source.invocation settings) world = ran
        at well ⊢
      obtain ⟨result, left⟩ := ran
      cases result with
      | error failure => cases well
      | ok formatted =>
          simp only at well ⊢
          cases delivered : deliver session.coloured check source formatted progress left.disk with
          | error reason =>
              rw [delivered] at well
              cases well
          | ok next =>
              obtain ⟨further, disk⟩ := next
              rw [delivered] at well
              exact inductionHypothesis well

/-- A failure ends the run where it comes: nothing is delivered for the source any more. -/
theorem formatSources_of_error {session : Session} {check : Bool} {settings : Settings}
    {progress : Progress} {world after : World} {source : Source} {failure : Failure}
    (failed : session.host.run .active (source.invocation settings) .format world =
      (.error failure, after)) (rest : List Source) :
    formatSources session check settings progress world (source :: rest) =
      ((progress, some (.tool failure)), after) := by
  unfold formatSources Host.formatText
  rw [failed]

end Cli

/-- The reply that an effect is, if it is one. -/
def Effect.reply? : Effect → Option Reply
  | .reply answer => some answer
  | _ => none

namespace Turn

variable {turn : Turn}

/-- The replies of a turn, the earliest first. -/
def replies (turn : Turn) : List Reply :=
  turn.effects.filterMap Effect.reply?

theorem replies_note (turn : Turn) (deed : Deed) :
    (turn.note deed).replies = turn.replies ++ (deed.effect?.bind Effect.reply?).toList := by
  unfold replies effects note
  rw [List.filterMap_append, List.filterMap_append]
  congr 1
  cases deed with
  | effect effect => cases effect <;> rfl
  | _ => rfl

theorem replies_tell (turn : Turn) (notice : Notice) :
    (turn.tell notice).replies = turn.replies := by
  unfold tell
  split
  · rfl
  · rw [emit, replies_note]
    exact List.append_nil _

theorem replies_ask (turn : Turn) (asker : Asker) (question : Question) :
    (turn.ask asker question).replies = turn.replies := by
  unfold ask
  split
  · rfl
  · rw [emit, replies_note]
    exact List.append_nil _

/-- A failure is reported without a reply, -/
theorem replies_report (turn : Turn) (number : Nat) (job : Job) (failure : Failure) :
    (turn.report number job failure).replies = turn.replies := by
  have logged := replies_tell (turn.note (.logged number job failure))
    (.log .error failure.details)
  rw [replies_note] at logged
  exact logged.trans (List.append_nil _)

/-- and so is it shown. -/
theorem replies_popUp (turn : Turn) (number : Nat) (job : Job) (failure : Failure) :
    (turn.popUp number job failure).replies = turn.replies := by
  have considered := replies_note turn (.considered number job failure)
  rw [show (Deed.considered number job failure).effect?.bind Effect.reply? = none from rfl,
    Option.toList_none, List.append_nil] at considered
  unfold popUp
  simp only
  split
  · exact considered
  · split
    · exact considered
    · rw [replies_ask]
      exact considered

/-- A formatting that failed is not answered yet: its failure is to be shown first. -/
theorem finishFormat_of_error {failure : Failure} (turn : Turn) (number : Nat) (request : RpcId)
    (finding : Finding) (failed : finding.output = .error failure) :
    (turn.finishFormat number request finding).replies = turn.replies ∧
      (turn.finishFormat number request finding).server.tellings.get? number =
        some ⟨finding.job, .display failure⟩ := by
  unfold finishFormat tellFormat
  rw [failed]
  simp only
  constructor
  · rw [replies_report, replies_note]
    exact List.append_nil _
  · rw [report_tellings, Table.get?_put, if_pos rfl]

/-- When the tool of a formatting has failed, that is told, and the request is still to be
answered. -/
theorem step_of_error {server : Server} {number : Nat} {job : Job} {request : RpcId}
    {tabSize : Nat} {python : Path} {failure : Failure} {outcome : Outcome}
    (held : server.jobs.get? number = some job) (waits : job.wait = .tool python)
    (errand : job.errand = .format request tabSize) (counts : job.superseded = false)
    (failed : TemplateLint.conclude (job.command python) (ToolOutput.ofOutcome outcome) =
      .error failure) (disk : Disk) (eager : Bool) :
    (server.step disk (.ended number (.finished outcome)) eager).replies = [] ∧
      (server.step disk (.ended number (.finished outcome)) eager).server.tellings.get? number =
        some ⟨job, .display failure⟩ := by
  rw [step_ended held waits counts, failed, finish]
  simp only [errand]
  exact finishFormat_of_error _ number request _ rfl

/-- When the editor has taken the failure of a formatting, the request is answered with nothing. -/
theorem replies_wake {server : Server} {number : Nat} {job : Job} {request : RpcId}
    {tabSize : Nat} {failure : Failure} (gone : server.jobs.get? number = none)
    (held : server.tellings.get? number = some ⟨job, .display failure⟩)
    (errand : job.errand = .format request tabSize) (disk : Disk) (eager : Bool) :
    (server.step disk (.woken number) eager).replies = [⟨request, .ok .null⟩] := by
  simp only [Server.step, step, wake, gone, held, tellOn, conclude, errand]
  rw [reply, emit, replies_note]
  have silent : ((Turn.popUp ⟨server, disk, []⟩ number job failure).silence number).replies =
      (Turn.popUp ⟨server, disk, []⟩ number job failure).replies := rfl
  rw [silent, replies_popUp]
  rfl

end Turn

/-! ## The result -/

/-- What becomes of the runs of a host, whatever the tool prints and however it ends. -/
structure FailsClosed (host : Host) : Prop where
  /-- An answer is the output of a tool that was started, and whose end was sanctioned, unless the
  tool mixed progress with something else. -/
  answer : ∀ locator invocation mode world text after,
    host.run locator invocation mode world = (.ok text, after) →
      ∃ interpreter middle outcome,
        host.resolve locator invocation world = (.ok interpreter, middle) ∧
        host.start (invocation.command mode interpreter.path) middle = (.ok outcome, after) ∧
        text = (ToolOutput.ofOutcome outcome).stdout ∧
        ((ToolOutput.ofOutcome outcome).Sanctioned ∨ (ToolOutput.ofOutcome outcome).Mixed)
  /-- A sanctioned end gives an answer, and so does a mixed one. -/
  answered : ∀ locator invocation mode world interpreter middle outcome after,
    host.resolve locator invocation world = (.ok interpreter, middle) →
    host.start (invocation.command mode interpreter.path) middle = (.ok outcome, after) →
    (ToolOutput.ofOutcome outcome).Sanctioned ∨ (ToolOutput.ofOutcome outcome).Mixed →
      host.run locator invocation mode world = (.ok (ToolOutput.ofOutcome outcome).stdout, after)
  /-- No document is changed by a run that failed. -/
  edits : ∀ locator invocation world failure after,
    host.run locator invocation .format world = (.error failure, after) →
      (host.formatDocument locator invocation world).1 =
        if invocation.shouldFormat then .error failure else .ok []
  /-- No file is written for a source whose run failed, nor for those after it. -/
  files : ∀ (session : Cli.Session) check settings progress world before source rest reached middle
      failure after, session.host = host →
    Cli.formatSources session check settings progress world before = ((reached, none), middle) →
    host.run .active (source.invocation settings) .format middle = (.error failure, after) →
      Cli.formatSources session check settings progress world (before ++ source :: rest) =
        ((reached, some (.tool failure)), after)

/-- How a server answers a formatting when the run of the tool neither was sanctioned nor mixed
progress with something else. -/
structure RepliesClosed (server : Server) : Prop where
  /-- When the tool ends nothing is replied: the failure is logged, and it is still to be shown. -/
  told : ∀ rounds number job request tabSize python outcome disk eager,
    (server.course rounds).1.jobs.get? number = some job → job.wait = .tool python →
    job.errand = .format request tabSize →
    ¬ ((ToolOutput.ofOutcome outcome).Sanctioned ∨ (ToolOutput.ofOutcome outcome).Mixed) →
      ((server.course rounds).1.step disk (.ended number (.finished outcome)) eager).replies = [] ∧
        ∃ failure, ((server.course rounds).1.step disk (.ended number (.finished outcome))
          eager).server.tellings.get? number = some ⟨job, .display failure⟩
  /-- When the editor has taken the failure, the request is answered with nothing. -/
  answered : ∀ rounds number job failure request tabSize disk eager,
    (server.course rounds).1.tellings.get? number = some ⟨job, .display failure⟩ →
    job.errand = .format request tabSize →
      ((server.course rounds).1.step disk (.woken number) eager).replies = [⟨request, .ok .null⟩]

theorem conclude_eq_error (command : Command) {output : ToolOutput}
    (refused : ¬ (output.Sanctioned ∨ output.Mixed)) :
    ∃ failure, conclude command output = .error failure := by
  cases concluded : conclude command output with
  | error failure => exact ⟨failure, rfl⟩
  | ok text => exact absurd (conclude_eq_ok.mp concluded).2 refused

/-- A run that failed is taken for an answer only when it mixes progress with something else. -/
theorem failsClosed (host : Host) (environ : Variables) (configFile : Option Path) (venv : Path)
    (store : Store) :
    FailsClosed host ∧ RepliesClosed (Server.start environ configFile venv store) := by
  refine ⟨⟨?answer, ?answered, ?edits, ?files⟩, ⟨?told, ?replied⟩⟩
  case answer =>
    intro locator invocation mode world text after answered
    obtain ⟨interpreter, middle, outcome, resolved, started, concluded⟩ :=
      Host.started_of_run answered
    obtain ⟨same, ended⟩ := conclude_eq_ok.mp concluded
    exact ⟨interpreter, middle, outcome, resolved, started, same, ended⟩
  case answered =>
    intro locator invocation mode world interpreter middle outcome after resolved started ended
    rw [Host.run_started resolved started, conclude_eq_ok.mpr ⟨rfl, ended⟩]
  case edits =>
    intro locator invocation world failure after failed
    exact Host.formatDocument_of_error failed
  case files =>
    rintro session check settings progress world before source rest reached middle failure after
      rfl well failed
    rw [Cli.formatSources_append well, Cli.formatSources_of_error failed]
  case told =>
    intro rounds number job request tabSize python outcome disk eager held waits errand refused
    have sound := Server.course_sound (Server.start_sound environ configFile venv store) rounds
    have counts := sound.formats number job held (by rw [errand]; rfl)
    obtain ⟨failure, failed⟩ := conclude_eq_error (job.command python) refused
    obtain ⟨silent, waits⟩ := Turn.step_of_error held waits errand counts failed disk eager
    exact ⟨silent, failure, waits⟩
  case replied =>
    intro rounds number job failure request tabSize disk eager held errand
    have sound := Server.course_sound (Server.start_sound environ configFile venv store) rounds
    exact Turn.replies_wake (sound.parted number _ held) held errand disk eager

/-! ### A tool that crashes after it told of progress -/

/-- Progress, and then the first line of a crash. -/
def crashText : String := "Linting 1/1 files\nTraceback (most recent call last):"

/-- The tool prints nothing but that, and ends with code one. -/
def crashOutcome : Outcome := ⟨"".toUTF8, crashText.toUTF8, .exited 1⟩

/-- Every program crashes. -/
def crashHost : Host :=
  { environ := []
    behave := fun disk _ => (crashOutcome, disk) }

/-- The interpreter `/python`. -/
def crashPython : Path := ⟨[47, 112, 121, 116, 104, 111, 110]⟩

/-- The interpreter is all that is there. -/
def crashWorld : World :=
  { disk := ⟨[([crashPython.bytes.tail], .file .empty true)], [], fun _ => none⟩
    launches := []
    isolated := ⟨crashPython, false⟩ }

/-- A document is to be formatted. -/
def crashInvocation : Invocation :=
  ⟨⟨⟨"untitled", none, .plain "page", none, none⟩, "html", none, "<p>keep me</p>"⟩,
    Settings.empty.set "useVenv" (.bool true), none, none⟩

theorem crash_not_onlyProgress : ¬ OnlyProgress crashText := by
  rintro ⟨-, all⟩
  have occurs := all "Traceback (most recent call last):".toList (by decide)
    ⟨'T', by decide, by decide⟩
  rw [← Text.Phrase.occursIn_iff progress_definite] at occurs
  revert occurs
  decide

/-- The run crashed, and its empty output is taken for the formatted document. -/
theorem run_answers_crash :
    crashHost.run (.fixed (.found crashPython)) crashInvocation .format crashWorld =
        (.ok "", { crashWorld with
          launches :=
            [⟨crashPython, ["-m", "djlint", "-", "--reformat"], [], "<p>keep me</p>"⟩] }) ∧
      ¬ (ToolOutput.ofOutcome crashOutcome).Sanctioned := by
  have stdout : (ToolOutput.ofOutcome crashOutcome).stdout = "" := decodeLossy_toUTF8 ""
  have stderr : (ToolOutput.ofOutcome crashOutcome).stderr = crashText :=
    decodeLossy_toUTF8 crashText
  have code : (ToolOutput.ofOutcome crashOutcome).exitCode = some 1 := rfl
  have occurs : Verdict.progress.Occurs crashText.toList :=
    (Text.Phrase.occursIn_iff progress_definite).mp (by decide)
  have mixed : (ToolOutput.ofOutcome crashOutcome).Mixed :=
    ⟨1, code, by decide, stderr ▸ occurs, stderr ▸ crash_not_onlyProgress⟩
  constructor
  · have resolved : crashHost.resolve (.fixed (.found crashPython)) crashInvocation crashWorld =
        (.ok ⟨crashPython, .activeEnvironment⟩, crashWorld) := by rfl
    have started : crashHost.start (crashInvocation.command .format crashPython) crashWorld =
        (.ok crashOutcome, { crashWorld with
          launches :=
            [⟨crashPython, ["-m", "djlint", "-", "--reformat"], [], "<p>keep me</p>"⟩] }) := by
      rfl
    rw [Host.run_started resolved started, conclude_eq_ok.mpr ⟨stdout.symm, Or.inr mixed⟩]
  · rintro (zero | ⟨-, -, empty | only⟩)
    · rw [code] at zero
      cases zero
    · rw [stderr] at empty
      revert empty
      decide
    · exact crash_not_onlyProgress (stderr ▸ only)

end TemplateLint
