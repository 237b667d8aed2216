import TemplateLint.Proofs.Endings
import TemplateLint.Proofs.Questions
import TemplateLint.Proofs.SettingsLayers

/-!
# The effective settings of a job

A job works with the values that the first layer brings that has them: the answer of the editor
about its document, what the editor brought last, the settings file, and the standard settings.
Only the choices of the user stand above these.  The layers are those at the moment when the job is
taken up, and the choices are those at the moment when the editor has answered.
Main exports: `HasSettings`, `Server.Replies`, `Server.Effective`, `SettingsLayered`,
`Server.settingsLayered`.
-/

namespace TemplateLint

/-! ## What is known of a job -/

namespace Turn

variable {turn : Turn} {known : Known} {number : Nat}

/-- Whatever happens in a turn, what is known of a job stays true, and is true of a job that is
taken up. -/
theorem step_agrees (event : Event) (eager : Bool)
    (idle : turn.server.phase = .fresh → ∀ request, turn.server.isPending request = false)
    (answered : Answered known number turn event)
    (grants : turn.server.nextJob ≤ number → (turn.step event eager).server.Grants known)
    (agrees : turn.Agrees known number) : (turn.step event eager).Agrees known number := by
  have counted : turn.counted.Agrees known number :=
    agrees.spared (.of_fate (.stays _) fun _ => id)
  cases pushed : event.configuration? with
  | some value =>
      rw [step_configuration eager pushed] at grants ⊢
      split
      · exact agrees
      · next listens =>
          rw [if_neg listens] at grants
          split
          · next ready =>
              rw [if_pos ready] at grants
              unfold heedConfigured at grants ⊢
              split
              · exact counted
              · next client taken =>
                  rw [taken] at grants
                  refine (lintAll_serves _ _ _).agrees grants ?_
                  exact counted.spared (.of_fate (.stays _) fun _ => id)
          · exact counted
  | none =>
      by_cases begins : turn.server.phase = .fresh ∧ ∃ params, event.beginning? = some params
      · obtain ⟨fresh, params, begins⟩ := begins
        obtain ⟨id, same⟩ := step_beginning eager begins fresh (idle fresh)
        have starts : turn.counted.server.phase = .fresh := fresh
        rw [same]
        exact counted.spared ((Apart.serve id params starts).spares number)
      · refine (step_minds event eager (fun fresh => ?_) pushed answered).agrees grants agrees
        rw [Option.eq_none_iff_forall_ne_some]
        exact fun params given => begins ⟨fresh, params, given⟩

/-- An answer to a job changes no choices of the user. -/
theorem step_answer_store {question : Int} {result : Option Json} (eager : Bool)
    (asks : turn.server.askers.get? question.toNat = some (.job number)) :
    (turn.step (.received (.answer (.number question) result)) eager).server.store =
      turn.server.store := by
  simp only [step, receive, receiveAnswer, asks]
  exact (deliver_steady _ number _ eager).store

end Turn

namespace Server

variable {server : Server} {history : List Deed}

/-- Findings are told of jobs that were taken up. -/
theorem turnIn_told_bound (sound : Sound server history) (round : Round) {number : Nat}
    {finding : Finding} (told : .told number finding ∈ (server.turnIn round).deeds) :
    number < (server.turnIn round).server.nextJob := by
  let kept (place : Hand × Turn) : Prop := ∀ number finding,
    .told number finding ∈ place.2.deeds → number < place.2.server.nextJob
  have bounds : kept (.free, server.turnIn round) := by
    refine turnIn_kept kept sound (fun _ _ member => absurd member List.not_mem_nil) ?_
    intro one two sound kept stride number finding member
    refine Nat.lt_of_lt_of_le ?_ stride.onward.nextJob
    rcases stride.deed_of member with before | finished
    · exact kept number finding before
    · obtain ⟨entry, held, -⟩ := finished.carries
      exact sound.numbered number entry held
  exact bounds number finding told

/-- A server that has begun to serve does not go back. -/
theorem turnIn_serves (sound : Sound server history) (round : Round)
    (serves : server.phase ≠ .fresh) : (server.turnIn round).server.phase ≠ .fresh :=
  turnIn_kept (fun place => place.2.server.phase ≠ .fresh) sound serves
    fun _ _ _ serves stride => stride.onward.serves serves

end Server

/-! ## How the settings of a job are fixed -/

/-- A job has its settings: it no longer waits for the editor, or its finding has been told. -/
def HasSettings (story : Server × List Deed) (number : Nat) (job : Job) : Prop :=
  (story.1.jobs.get? number = some job ∧ job.wait ≠ .editor) ∨
    ∃ output, .told number ⟨job, output⟩ ∈ story.2

/-- The object in an answer of the editor: the last item, if that is one. -/
def Answer.layer? : Option Json → Option Members
  | some (.array items) => items.getLast?.bind Json.members?
  | _ => none

theorem Settings.answered_settings? (settings : Settings) (result : Option Json) :
    settings.answered (Answer.settings? result) = settings.beneath (Answer.layer? result) := by
  have items (item : Option Json) :
      settings.answered (item.bind ofJson?) = settings.beneath (item.bind Json.members?) := by
    cases item with
    | none => rfl
    | some value => cases value <;> rfl
  cases result with
  | none => rfl
  | some value =>
      cases value with
      | array values => exact items _
      | _ => rfl

namespace Server

/-- The job gets its number in the round. -/
def TakesUp (server : Server) (earlier : List Round) (taken : Round) (number : Nat) : Prop :=
  (server.course earlier).1.nextJob ≤ number ∧
    number < (server.course (earlier ++ [taken])).1.nextJob

/-- After some rounds the editor is asked for the settings of documents: it can be, and it
listens. -/
def asksAfter (server : Server) (rounds : List Round) : Bool :=
  (server.layersAfter rounds).asks && (server.course rounds).1.phase.isOpen

/-- What the editor says about the settings of a document for which a job is taken up.  When it is
asked, it says so in the last of the rounds that follow, as the answer to the question about the
document that the job waits for. -/
inductive Replies (server : Server) (number : Nat) (uri : Uri) (before : List Round) :
    List Round → Option Members → Prop where
  | unasked (silent : server.asksAfter before = false) : Replies server number uri before [] none
  | asked (between : List Round) (round : Round) (question : Int) (result : Option Json)
      (asks : server.asksAfter before = true)
      (answers : round.event = .received (.answer (.number question) result))
      (waits : (server.course (before ++ between)).1.askers.get? question.toNat =
        some (.job number))
      (about : .effect (.ask question.toNat (.settings uri)) ∈
        (server.course (before ++ between)).2) :
      Replies server number uri before (between ++ [round]) (Answer.layer? result)

/-- The settings were fixed when the job was taken up, and when the editor had said what it says. -/
def Fixed (server : Server) (rounds : List Round) (number : Nat) (basis : Basis) : Prop :=
  ∃ earlier taken meanwhile answer, earlier ++ [taken] ++ meanwhile <+: rounds ∧
    server.TakesUp earlier taken number ∧
    basis.folder = basis.document.folderIn? (server.course (earlier ++ [taken])).1.folders ∧
    server.Replies number basis.document.uri (earlier ++ [taken]) meanwhile answer ∧
    basis.settings = (server.course (earlier ++ [taken] ++ meanwhile)).1.store.apply basis.folder
      ((server.course (earlier ++ [taken])).1.settings.beneath answer)

/-- The settings are those of all documents when the job was taken up, and the editor was asked. -/
def Asking (server : Server) (rounds : List Round) (number : Nat) (basis : Basis) : Prop :=
  ∃ earlier taken meanwhile, earlier ++ [taken] ++ meanwhile = rounds ∧
    server.TakesUp earlier taken number ∧
    basis.folder = basis.document.folderIn? (server.course (earlier ++ [taken])).1.folders ∧
    server.asksAfter (earlier ++ [taken]) = true ∧
    basis.settings = (server.course (earlier ++ [taken])).1.settings

/-- What is known of a job after some rounds. -/
def knownAfter (server : Server) (rounds : List Round) (number : Nat) : Known :=
  ⟨server.Asking rounds number, server.Fixed rounds number⟩

variable {server : Server} {rounds : List Round} {number : Nat}

theorem Fixed.concat {basis : Basis} (fixed : server.Fixed rounds number basis) (last : Round) :
    server.Fixed (rounds ++ [last]) number basis := by
  obtain ⟨earlier, taken, meanwhile, answer, within, rest⟩ := fixed
  exact ⟨earlier, taken, meanwhile, answer, within.trans (List.prefix_append _ _), rest⟩

theorem Asking.concat {basis : Basis} (asking : server.Asking rounds number basis)
    (last : Round) : server.Asking (rounds ++ [last]) number basis := by
  obtain ⟨earlier, taken, meanwhile, whole, rest⟩ := asking
  exact ⟨earlier, taken, meanwhile ++ [last], by simp [← whole], rest⟩

/-- The answer of the editor fixes the settings of the job that has asked. -/
theorem Asking.answered {basis : Basis} {last : Round} {question : Int} {result : Option Json}
    (asking : server.Asking rounds number basis)
    (answers : last.event = .received (.answer (.number question) result))
    (waits : (server.course rounds).1.askers.get? question.toNat = some (.job number))
    (about : .effect (.ask question.toNat (.settings basis.document.uri)) ∈
      (server.course rounds).2) :
    server.Fixed (rounds ++ [last]) number
      { basis with
        settings := (server.course (rounds ++ [last])).1.store.apply basis.folder
          (basis.settings.beneath (Answer.layer? result)) } := by
  obtain ⟨earlier, taken, meanwhile, rfl, takesUp, folder, asks, same⟩ := asking
  refine ⟨earlier, taken, meanwhile ++ [last], _, ?_, takesUp, folder,
    .asked meanwhile last question result asks answers waits about, ?_⟩
  · simp
  · rw [same, ← List.append_assoc]

/-- What is known of a job stays true in every turn: if it is taken up, its settings are those of
all documents at the end of the turn, and if the editor answers, they are fixed. -/
theorem turnIn_tracked
    (sound : ∀ rounds, Sound (server.course rounds).1 (server.course rounds).2)
    (inquires : Inquires (server.course rounds).1 (server.course rounds).2)
    (laid : ∀ rounds, (server.course rounds).1.LaidOut (server.layersAfter rounds))
    {last : Round} (late : number < (server.course (rounds ++ [last])).1.nextJob)
    (fits : ∀ job, (server.course rounds).1.jobs.get? number = some job →
      job.Fits (server.knownAfter rounds number)) :
    Turn.Agrees (server.knownAfter (rounds ++ [last]) number) number
      ((server.course rounds).1.turnIn last) := by
  have ended : ((server.course rounds).1.turnIn last).server =
      (server.course (rounds ++ [last])).1 := by
    rw [course_concat]
  have asks : server.asksAfter (rounds ++ [last]) = (server.course (rounds ++ [last])).1.asks := by
    rw [asksAfter, ← (laid _).asks]
    rfl
  rw [turnIn, turnOn, step]
  have idle (fresh : (server.course rounds).1.phase = .fresh) := (sound rounds).unasked fresh
  refine Turn.step_agrees last.event last.eager idle ?answered ?grants ?agrees
  case agrees =>
    refine ⟨fun job held => ?_, fun _ told => absurd told List.not_mem_nil⟩
    have before := fits job held
    exact ⟨fun waits => (before.asking waits).concat last,
      fun settled => (before.fixed settled).concat last⟩
  case grants =>
    intro first
    have takesUp : server.TakesUp rounds last number := ⟨first, late⟩
    rw [turnIn, turnOn, step] at ended
    rw [ended]
    constructor
    · intro listens basis folder same
      exact ⟨rounds, last, [], by simp, takesUp, folder, asks.trans listens, same⟩
    · intro silent basis folder same
      refine ⟨rounds, last, [], none, by simp, takesUp, folder, .unasked (asks.trans silent), ?_⟩
      rw [List.append_nil]
      exact same
  case answered =>
    intro question result job answers waits held editor
    have fixed := ((fits job held).asking editor).answered answers waits
      (inquires.asked _ _ _ waits held)
    have store : (server.course (rounds ++ [last])).1.store = (server.course rounds).1.store := by
      rw [← ended, turnIn, turnOn, step, answers]
      exact Turn.step_answer_store last.eager waits
    rw [store, ← Settings.answered_settings?] at fixed
    exact fixed

/-- What is known of the jobs is true after every course. -/
theorem course_tracked
    (sound : ∀ rounds, Sound (server.course rounds).1 (server.course rounds).2)
    (inquires : ∀ rounds, Inquires (server.course rounds).1 (server.course rounds).2)
    (laid : ∀ rounds, (server.course rounds).1.LaidOut (server.layersAfter rounds))
    (idle : ∀ number, server.jobs.get? number = none) (rounds : List Round) (number : Nat) :
    (∀ job, (server.course rounds).1.jobs.get? number = some job →
      job.Fits (server.knownAfter rounds number)) ∧
      ∀ finding, .told number finding ∈ (server.course rounds).2 →
        server.Fixed rounds number finding.job.basis := by
  induction rounds using List.reverseRecOn with
  | nil =>
      refine ⟨fun job held => ?_, fun _ told => absurd told List.not_mem_nil⟩
      cases (idle number).symm.trans held
  | append_singleton rounds last inductionHypothesis =>
      have whole := course_concat server rounds last
      have tracked (late : number < (server.course (rounds ++ [last])).1.nextJob) :=
        turnIn_tracked sound (inquires rounds) laid late inductionHypothesis.1
      constructor
      · intro job held
        have late := (sound (rounds ++ [last])).numbered number job held
        have agrees := tracked late
        rw [whole] at held
        exact agrees.held job held
      · intro finding told
        rw [whole] at told
        rcases List.mem_append.mp told with before | here
        · exact (inductionHypothesis.2 finding before).concat last
        · have late := turnIn_told_bound (sound rounds) last here
          rw [← congrArg (·.1.nextJob) whole] at late
          exact (tracked late).told finding here

end Server

/-! ## The answer gives the settings -/

namespace Turn

variable {turn : Turn} {number : Nat} {job : Job}

/-- A job that the editor answers gets its settings at once. -/
theorem deliver_answer (held : turn.server.jobs.get? number = some job)
    (editor : job.wait = .editor) (counts : job.superseded = false) (answer : Option Settings)
    (eager : Bool) :
    ∃ later, job.Same later ∧
      HasSettings ((turn.deliver number (.answer answer) eager).server,
        (turn.deliver number (.answer answer) eager).deeds) number later := by
  have heeded : turn.heeds number job (.answer answer) = true := by simp [heeds, editor]
  have resumed : turn.resume number job (.answer answer) = turn.settle number job answer := by
    simp [resume, editor]
  have settles := settle_settles (carries_of_get? held) answer
  have own : job.Same (turn.settled job answer) := ⟨rfl, rfl, rfl, rfl, rfl⟩
  have delivered : turn.deliver number (.answer answer) eager =
      finishIfDone number (turn.settle number job answer) := by
    simp [deliver, held, heeded, counts, resumed]
  rw [delivered]
  generalize turn.settle number job answer = result at settles
  obtain ⟨ended, - | finding⟩ := result
  · obtain ⟨later, there, -, apart⟩ := settles.waits rfl
    obtain ⟨entry, present, same⟩ := settles.carries
    cases present.symm.trans there
    exact ⟨later, own.trans same.symm, Or.inl ⟨there, apart⟩⟩
  · have same := own.trans (settles.finding finding rfl)
    exact ⟨finding.job, same, Or.inr ⟨finding.output, finish_tells ended number finding⟩⟩

end Turn

/-! ## The result -/

theorem Store.get?_apply (store : Store) (folder : Option Path) (settings : Settings)
    (key : String) :
    (store.apply folder settings).get? key =
      if store.isSuppressed folder = true ∧ key = "showInstallError" then some (.bool false)
      else settings.get? key := by
  unfold apply
  split
  · next hidden =>
      rw [Settings.get?_set]
      simp [hidden]
  · next shown => simp [shown]

namespace Server

/-- In some rounds no object is pushed to the server while it serves. -/
def Unpushed (server : Server) (before during : List Round) : Prop :=
  ∀ first round rest, during = first ++ round :: rest →
    (server.course (before ++ first)).1.phase = .ready →
      round.event.configuration?.bind Json.members? = none

/-- The settings of a job are the effective ones.  The job was taken up in the round `taken`, and
when the rounds `meanwhile` were over, the editor had said what it says. -/
structure Effective (server : Server) (rounds : List Round) (number : Nat) (job : Job)
    (earlier : List Round) (taken : Round) (meanwhile : List Round) (answer : Option Members) :
    Prop where
  within : earlier ++ [taken] ++ meanwhile <+: rounds
  takesUp : server.TakesUp earlier taken number
  /-- It belongs to the folder that its document was in. -/
  folder : job.folder = job.document.folderIn? (server.course (earlier ++ [taken])).1.folders
  replies : server.Replies number job.document.uri (earlier ++ [taken]) meanwhile answer
  /-- Every key has the value of the first layer that has it, unless the user has chosen. -/
  values : ∀ key, job.settings.get? key =
    (server.layersAfter (earlier ++ [taken])).effective?
      ((server.course (earlier ++ [taken] ++ meanwhile)).1.store.isSuppressed job.folder) answer key
  /-- As long as nothing is pushed while the editor is asked, those are the layers in the end. -/
  unpushed : server.Unpushed (earlier ++ [taken]) meanwhile →
    server.layersAfter (earlier ++ [taken] ++ meanwhile) = server.layersAfter (earlier ++ [taken])

/-- The settings of all jobs are taken from the layers. -/
structure SettingsLayered (server : Server) (rounds : List Round) : Prop where
  effective : ∀ number job, HasSettings (server.course rounds) number job →
    ∃ earlier taken meanwhile answer,
      server.Effective rounds number job earlier taken meanwhile answer
  /-- A job that has no settings yet was taken up when the editor was to be asked. -/
  asking : ∀ number job, (server.course rounds).1.jobs.get? number = some job →
    job.wait = .editor → ∃ earlier taken meanwhile, earlier ++ [taken] ++ meanwhile = rounds ∧
      server.TakesUp earlier taken number ∧ server.asksAfter (earlier ++ [taken]) = true
  /-- It gets them as soon as the editor answers, if it is still wanted. -/
  answered : ∀ number job round question result,
    (server.course rounds).1.jobs.get? number = some job → job.wait = .editor →
      job.superseded = false →
        (server.course rounds).1.askers.get? question.toNat = some (.job number) →
          round.event = .received (.answer (.number question) result) →
            ∃ later, job.Same later ∧
              HasSettings (server.course (rounds ++ [round])) number later

variable {server : Server} {rounds : List Round} {number : Nat}

/-- The settings of all documents, with an answer over them, key by key. -/
theorem LaidOut.get?_answered {layers : Layers} (laid : server.LaidOut layers)
    (answer : Option Members) (key : String) :
    (server.settings.beneath answer).get? key = layers.value? answer key := by
  rw [laid.settings, Settings.get?_beneath, Settings.get?_beneath, Settings.get?_beneath,
    Layers.value?]
  simp only [List.findSome?_cons, List.findSome?_nil]
  cases answer.bind (Members.setting? key) with
  | some value => rfl
  | none =>
      cases layers.client.bind (Members.setting? key) with
      | some value => rfl
      | none => cases layers.file.bind (Members.setting? key) <;> rfl

/-- As long as nothing is pushed, the layers stay. -/
theorem layersAfter_unpushed
    (sound : ∀ rounds, Sound (server.course rounds).1 (server.course rounds).2)
    {before during : List Round} (serves : (server.course before).1.phase ≠ .fresh)
    (unpushed : server.Unpushed before during) :
    (server.course (before ++ during)).1.phase ≠ .fresh ∧
      server.layersAfter (before ++ during) = server.layersAfter before := by
  induction during using List.reverseRecOn with
  | nil => simpa using serves
  | append_singleton during last inductionHypothesis =>
      obtain ⟨still, same⟩ := inductionHypothesis fun first round rest split =>
        unpushed first round (rest ++ [last]) (by simp [split])
      rw [← List.append_assoc, course_concat, layersAfter_concat]
      refine ⟨turnIn_serves (sound _) last still, ?_⟩
      rw [next_eq_self (fun fresh => absurd fresh still) (unpushed during last [] rfl), same]

theorem Fixed.effective
    (sound : ∀ rounds, Sound (server.course rounds).1 (server.course rounds).2)
    (laid : ∀ rounds, (server.course rounds).1.LaidOut (server.layersAfter rounds)) {job : Job}
    (fixed : server.Fixed rounds number job.basis) :
    ∃ earlier taken meanwhile answer,
      server.Effective rounds number job earlier taken meanwhile answer := by
  obtain ⟨earlier, taken, meanwhile, answer, within, takesUp, folder, replies, same⟩ := fixed
  refine ⟨earlier, taken, meanwhile, answer, within, takesUp, folder, replies, fun key => ?_, ?_⟩
  · rw [show job.settings = _ from same, Store.get?_apply, (laid _).get?_answered]
    rfl
  · intro unpushed
    cases replies with
    | unasked silent => rw [List.append_nil]
    | asked between round question result asks answers waits about =>
        refine (layersAfter_unpushed sound (fun fresh => ?_) unpushed).2
        -- before it begins, a server asks nothing
        rw [asksAfter, (laid _).idle fresh] at asks
        cases asks

/-- In every run of a server the settings of a job are the effective ones: every key has the value
of the first layer that has it. -/
theorem settingsLayered (environ : Variables) (configFile : Option Path) (venv : Path)
    (store : Store) (rounds : List Round) :
    SettingsLayered (start environ configFile venv store) rounds := by
  have begins := start_sound environ configFile venv store
  have asks := start_inquires environ configFile venv store
  have starts := start_laidOut environ configFile venv store
  have idle (number : Nat) : (start environ configFile venv store).jobs.get? number = none := rfl
  generalize start environ configFile venv store = server at begins asks starts idle
  have sound (rounds : List Round) : Sound (server.course rounds).1 (server.course rounds).2 :=
    course_sound begins rounds
  have laid := course_laidOut begins starts
  have tracked := course_tracked sound (course_inquires begins asks) laid idle rounds
  refine { effective := ?effective, asking := ?asking, answered := ?answered }
  case effective =>
    rintro number job (⟨held, settled⟩ | ⟨output, told⟩)
    · exact (((tracked number).1 job held).fixed settled).effective sound laid
    · exact ((tracked number).2 ⟨job, output⟩ told).effective sound laid
  case asking =>
    intro number job held editor
    obtain ⟨earlier, taken, meanwhile, whole, takesUp, -, asks, -⟩ :=
      ((tracked number).1 job held).asking editor
    exact ⟨earlier, taken, meanwhile, whole, takesUp, asks⟩
  case answered =>
    intro number job round question result held editor counts waits answers
    let erased : Turn := Turn.update
      ⟨(server.course rounds).1.arranged round.rank, round.disk, []⟩
      fun server => { server with askers := server.askers.erase question.toNat }
    have there : erased.server.jobs.get? number = some job := held
    obtain ⟨later, same, has⟩ :=
      Turn.deliver_answer there editor counts (Answer.settings? result) round.eager
    have turn : (server.course rounds).1.turnIn round =
        erased.deliver number (.answer (Answer.settings? result)) round.eager := by
      have asked : ((server.course rounds).1.arranged round.rank).askers.get? question.toNat =
          some (.job number) := waits
      rw [turnIn, turnOn, step, answers]
      simp only [Turn.step, Turn.receive, Turn.receiveAnswer, asked]
      rfl
    refine ⟨later, same, ?_⟩
    rw [course_concat, turn]
    refine has.imp_right fun told => ?_
    obtain ⟨output, member⟩ := told
    exact ⟨output, List.mem_append_right _ member⟩

end Server

namespace Sample

/-- An editor begins that can be asked for settings, and brings some. -/
def beginsAsked : Round :=
  sends .empty "initialize" (some (.number 1)) (some (.object
    [("capabilities", .object [("workspace", .object [("configuration", .bool true)])]),
      ("initializationOptions", .object
        [("djlint", .object [("pythonPath", .text "/python"), ("useVenv", .bool true)])])]))

/-- It is asked for the settings of a document, and answers. -/
def answersAsked : Round :=
  ⟨⟨interpreter, .received (.answer (.number 0)
    (some (.array [.object [("useVenv", .bool false)]]))), false⟩, fun _ => 0⟩

/-- A key of the answer, one of the options, and one that is only among the standard settings. -/
example :
    (((Server.start [] none ⟨[]⟩ .inMemory).course
      [beginsAsked, opens "file:///a", answersAsked]).1.jobs.get? 0).map (fun job =>
        (job.wait, job.settings.isOn "useVenv", job.settings.text? "pythonPath",
          job.settings.isOn "showInstallError")) =
      some (.tool (Path.ofString "/python"), false, some "/python", true) := by
  decide +kernel

end Sample

end TemplateLint
