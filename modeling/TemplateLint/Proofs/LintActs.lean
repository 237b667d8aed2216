import TemplateLint.Proofs.Files
import TemplateLint.Proofs.Lints
import TemplateLint.Proofs.Strides

/-!
# The acts of a server keep its lints in order

Every act of a server keeps the invariant of its lints, and so does every turn.
Main exports: `Turn.act_sound`, `Server.turnOn_sound`.
-/

namespace TemplateLint

/-- The setup gets nothing to read. -/
theorem Setup.launch_feeds {stage : Setup} {venv : Path} {disk : Disk} {environ : Variables}
    {launch : Launch} (launched : (stage.command venv).launch disk environ = .ok launch)
    (document : Document) : launch.Feeds document := by
  obtain ⟨arguments, input⟩ := Command.launch_given launched
  rw [Launch.Feeds, arguments, input]
  cases stage <;> rfl

/-- The tool is given the text of the document. -/
theorem Job.launch_feeds {job : Job} {python : Path} {disk : Disk} {environ : Variables}
    {launch : Launch} (launched : (job.command python).launch disk environ = .ok launch) :
    launch.Feeds job.document := by
  obtain ⟨arguments, input⟩ := Command.launch_given launched
  have runsTool : toolWords <+: launch.arguments := by
    rw [arguments]
    exact List.prefix_append _ _
  rw [Launch.Feeds, if_pos runsTool, input]
  rfl

namespace Turn

variable {turn : Turn} {past : List Deed} {number : Nat} {job : Job}

/-- The invariant in the middle of a turn. -/
abbrev SoundAfter (past : List Deed) (turn : Turn) : Prop :=
  Sound turn.server (past ++ turn.deeds)

theorem emit_sound {effect : Effect} (sound : SoundAfter past turn)
    (right : effect.Right (past ++ turn.deeds))
    (known : ∀ number, (Deed.effect effect).about? = some number → number < turn.server.nextJob) :
    SoundAfter past (turn.emit effect) := by
  have kept := sound.effect right known
  rwa [List.append_assoc] at kept

theorem tell_sound {notice : Notice} (sound : SoundAfter past turn)
    (right : (Effect.tell notice).Right (past ++ turn.deeds)) :
    SoundAfter past (turn.tell notice) := by
  unfold tell
  split
  · exact sound
  · exact emit_sound sound right (by rintro _ ⟨⟩)

theorem reply_sound (sound : SoundAfter past turn) (id : RpcId) (result : Except RpcError Json) :
    SoundAfter past (turn.reply id result) :=
  emit_sound sound trivial (by rintro _ ⟨⟩)

/-- What is published is right when it is what the last cause says. -/
theorem publish_sound {uri : Uri} {diagnostics : List Diagnostic} {version : Option Int}
    (sound : SoundAfter past turn)
    (published : PublishedBy uri diagnostics version (causeIn? (past ++ turn.deeds))) :
    SoundAfter past (turn.publish uri diagnostics version) := by
  unfold publish
  split
  · exact tell_sound sound published
  · exact sound

theorem ask_sound {asker : Asker} {question : Question} (sound : SoundAfter past turn)
    (right : (Effect.ask turn.server.nextQuestion question).Right (past ++ turn.deeds)) :
    SoundAfter past (turn.ask asker question) := by
  unfold ask
  split
  · exact sound
  · refine emit_sound ?_ right (by rintro _ ⟨⟩)
    exact sound.alike rfl rfl rfl rfl rfl rfl id

/-- What a turn did is still done when it goes on. -/
theorem Adds.mem_past {kind : Deed → Prop} {next : Turn} {deed : Deed}
    (adds : Adds kind turn next) (member : deed ∈ past ++ turn.deeds) :
    deed ∈ past ++ next.deeds := by
  rcases List.mem_append.mp member with before | here
  · exact List.mem_append_left _ before
  · exact List.mem_append_right _ (adds.mem here)

/-- A job that was told, and is over, waits for the editor. -/
theorem pause_sound {rest : Rest} (sound : SoundAfter past turn)
    (bound : number < turn.server.nextJob) (gone : turn.server.jobs.get? number = none)
    (announced : Telling.Announced number ⟨job, rest⟩ (past ++ turn.deeds)) :
    SoundAfter past (turn.pause number job rest) :=
  Sound.pause sound bound gone announced

/-- A failure may be logged once it was told and its job is no more in the table. -/
theorem report_sound {failure : Failure} (sound : SoundAfter past turn)
    (bound : number < turn.server.nextJob) (finished : turn.server.jobs.get? number = none)
    (told : .told number ⟨job, .error failure⟩ ∈ past ++ turn.deeds) :
    SoundAfter past (turn.report number job failure) := by
  have noted : SoundAfter past (turn.note (.logged number job failure)) := by
    have logged := sound.log told
    rwa [List.append_assoc] at logged
  have written : SoundAfter past
      ((turn.note (.logged number job failure)).tell (.log .error failure.details)) := by
    refine tell_sound noted ?_
    rw [note, ← List.append_assoc, Effect.Right, causeIn?_append]
    exact rfl
  have speaks := Speaks.tell (turn.note (.logged number job failure))
    (.log .error failure.details)
  have earlier : Adds Deed.IsTalk turn (turn.note (.logged number job failure)) :=
    .one rfl trivial
  have here : Deed.logged number job failure ∈
      past ++ (turn.note (.logged number job failure)).deeds := by
    simp [note]
  refine pause_sound written (by rwa [speaks.nextJob]) (by rwa [speaks.jobs]) ⟨?_, ?_⟩
  · exact ⟨.error failure, speaks.adds.mem_past (earlier.mem_past told), rfl⟩
  · rintro _ ⟨⟩
    exact speaks.adds.mem_past here

/-- A failure may be considered once it was logged. -/
theorem popUp_sound {failure : Failure} (sound : SoundAfter past turn)
    (logged : .logged number job failure ∈ past ++ turn.deeds) :
    SoundAfter past (turn.popUp number job failure) := by
  have noted : SoundAfter past (turn.note (.considered number job failure)) := by
    have considered := sound.consider logged
    rwa [List.append_assoc] at considered
  unfold popUp
  simp only
  split
  · exact noted
  · split
    · exact noted
    · refine ask_sound (noted.alike rfl rfl rfl rfl rfl rfl id) ?_
      simp only [note, update]
      rw [← List.append_assoc, Effect.Right, causeIn?_append]
      exact rfl

/-- A lint that counts runs. -/
theorem Carries.runs {uri : Uri} (carries : turn.Carries number job) (lints : job.Lints uri)
    (counts : job.superseded = false) : turn.server.Runs number uri := by
  obtain ⟨entry, held, same⟩ := carries
  exact ⟨entry, held, ⟨same.errand ▸ lints.1, same.document ▸ lints.2⟩, same.superseded ▸ counts⟩

/-- A lint that counts is the one that is named. -/
theorem clearInFlight_eq (turn : Turn) {uri : Uri}
    (newest : turn.server.inFlight.get? uri = some number) :
    turn.clearInFlight number uri =
      turn.update fun server => { server with inFlight := server.inFlight.erase uri } := by
  rw [clearInFlight, if_pos newest]

/-- A lint that counts may be told, if what is stored then fits what it came to: all else follows
from the end of the job. -/
theorem told_sound {finding : Finding} {other : Server} (turn : Turn)
    (sound : SoundAfter past turn)
    (carries : turn.Carries number finding.job) (mode : finding.job.errand.mode = .lint)
    (counts : finding.job.superseded = false)
    (jobs : other.jobs = turn.server.jobs.erase number)
    (inFlight : other.inFlight = turn.server.inFlight.erase finding.job.document.uri)
    (documents : other.documents = turn.server.documents)
    (tellings : other.tellings = turn.server.tellings)
    (next : other.nextJob = turn.server.nextJob) (phase : other.phase = turn.server.phase)
    (diagnostics : ∀ uri, other.diagnostics.get? uri =
      ((Deed.told number finding).found? uri).getD (turn.server.diagnostics.get? uri)) :
    Sound other (past ++ (turn.deeds ++ [.told number finding])) := by
  have runs := carries.runs ⟨mode, rfl⟩ counts
  obtain ⟨entry, held, same⟩ := carries
  rw [← List.append_assoc]
  exact sound.tell held same (fun _ => counts) (sound.counted.finish runs jobs inFlight)
    (fun name => by rw [jobs, Table.get?_erase]) documents diagnostics tellings next phase

/-- Once the diagnostics are published, the rest of what was told is still to be told. -/
theorem pauseTold_sound {finding : Finding} {next : Turn} {rest : Rest}
    (published : SoundAfter past next) (speaks : Speaks turn next)
    (bound : number < turn.server.nextJob) (gone : turn.server.jobs.get? number = none)
    (told : .told number finding ∈ past ++ turn.deeds) (fits : rest.Fits finding.output)
    (hides : ∀ failure, rest ≠ .display failure) :
    SoundAfter past (next.pause number finding.job rest) :=
  pause_sound published (by rwa [speaks.nextJob]) (by rwa [speaks.jobs])
    ⟨⟨finding.output, speaks.adds.mem_past told, fits⟩,
      fun failure shows => absurd shows (hides failure)⟩

/-- A lint that counts may be told: its document has not been touched. -/
theorem finishLint_sound {finding : Finding} (sound : SoundAfter past turn)
    (carries : turn.Carries number finding.job) (mode : finding.job.errand.mode = .lint)
    (counts : finding.job.superseded = false) :
    SoundAfter past (turn.finishLint number finding) := by
  have newest := (sound.counted _ _).mpr (carries.runs ⟨mode, rfl⟩ counts)
  have bound : number < turn.server.nextJob := by
    obtain ⟨entry, held, -⟩ := carries
    exact sound.numbered number entry held
  have gone : (turn.server.jobs.erase number).get? number = none := by
    rw [Table.get?_erase, if_pos rfl]
  have here : .told number finding ∈ past ++ (turn.deeds ++ [.told number finding]) := by simp
  have found (uri : Uri) : (Deed.told number finding).found? uri =
      if uri = finding.job.document.uri then finding.result? else none := by
    simp only [Deed.found?, Job.Lints, mode, true_and]
    simp only [eq_comm]
  have published {found : Option (List Diagnostic)} (result : finding.result? = some found) :
      PublishedBy finding.job.document.uri (found.getD []) finding.job.document.version
        (causeIn? (past ++ (turn.deeds ++ [.told number finding]))) := by
    rw [← List.append_assoc, causeIn?_append]
    exact ⟨⟨mode, rfl⟩, by simp [result], rfl⟩
  have ending : turn.finishLint number finding =
      (((turn.discharge number).update fun server =>
        { server with inFlight := server.inFlight.erase finding.job.document.uri }).note
          (.told number finding)).tellLint number finding := by
    simp only [finishLint]
    rw [clearInFlight_eq (turn.discharge number) newest]
  rw [ending, tellLint]
  cases output : finding.output with
  | ok stdout =>
      have result : finding.result? = some (some (finding.job.diagnostics stdout)) := by
        simp [Finding.result?, output]
      refine pauseTold_sound (publish_sound (told_sound turn sound carries mode counts rfl rfl rfl
        rfl rfl rfl fun uri => ?_) (published result)) (.publish _ _ _ _) bound gone here
        ⟨stdout, output⟩ (by simp)
      rw [found, result]
      simp only [note, update, discharge, Table.get?_put]
      split <;> rfl
  | error failure =>
      simp only
      cases passing : failure.isConfiguration with
      | false =>
          rw [if_neg (by simp)]
          refine report_sound (told_sound turn sound carries mode counts rfl rfl rfl rfl rfl rfl
            fun uri => ?_) bound gone ?_
          · rw [found]
            simp [Finding.result?, output, passing, note, update, discharge]
          · rw [← output]
            exact here
      | true =>
          have result : finding.result? = some none := by
            simp [Finding.result?, output, passing]
          rw [if_pos rfl]
          refine pauseTold_sound (publish_sound (told_sound turn sound carries mode counts rfl rfl
            rfl rfl rfl rfl fun uri => ?_) (published result)) (.publish _ _ _ _) bound gone here
            output (by simp)
          rw [found, result]
          simp only [note, update, discharge, Table.get?_erase]
          split <;> rfl

theorem finishFormat_sound {finding : Finding} {request : RpcId} (sound : SoundAfter past turn)
    (carries : turn.Carries number finding.job) (formats : finding.job.errand.mode = .format) :
    SoundAfter past (turn.finishFormat number request finding) := by
  obtain ⟨entry, held, same⟩ := carries
  have format : entry.errand.mode = .format := same.errand ▸ formats
  have removed := sound.remove held (Or.inl format)
  have noLint : finding.job.errand.mode ≠ .lint := by simp [formats]
  have told : SoundAfter past ((turn.discharge number).note (.told number finding)) := by
    unfold SoundAfter
    simp only [note, discharge, update]
    rw [← List.append_assoc]
    exact sound.tell held same (fun lints => absurd lints noLint) removed.counted
      (fun name => Table.get?_erase _ _ _) rfl
      (fun uri => by simp [Deed.found?, Job.Lints, noLint]) rfl rfl rfl
  rw [finishFormat, tellFormat]
  cases output : finding.output with
  | ok stdout => exact reply_sound told request _
  | error failure =>
      refine report_sound told (sound.numbered number entry held) ?_ ?_
      · exact (Table.get?_erase _ _ _).trans (if_pos rfl)
      · rw [← output]
        simp [note]

/-! ### Jobs that go without being told -/

theorem killFor_sound (sound : SoundAfter past turn) (number : Nat) :
    SoundAfter past (turn.killFor number) := by
  unfold killFor
  split
  · split
    · exact emit_sound sound trivial (by rintro _ ⟨⟩)
    · exact sound
  · exact sound

/-- A job may go untold if it is a formatting or superseded. -/
theorem abandon_sound (sound : SoundAfter past turn) (carries : turn.Carries number job)
    (finished : job.errand.mode = .format ∨ job.superseded = true) :
    SoundAfter past (turn.abandon number) := by
  obtain ⟨entry, held, same⟩ := carries
  have killed := killFor_sound sound number
  have held : (turn.killFor number).server.jobs.get? number = some entry := by
    rw [killFor_server, held]
  have released : SoundAfter past ((turn.killFor number).release number) :=
    killed.alike rfl rfl rfl rfl rfl rfl id
  exact released.remove held (same.errand ▸ same.superseded ▸ finished)

/-- The lint that was dropped is not the one that is named. -/
theorem drop_sound (sound : SoundAfter past turn) (carries : turn.Carries number job)
    (superseded : job.superseded = true) :
    SoundAfter past ((turn.abandon number).clearInFlight number job.document.uri) := by
  have dropped := abandon_sound sound carries (Or.inr superseded)
  have gone : (turn.abandon number).server.inFlight.get? job.document.uri ≠ some number := by
    intro newest
    obtain ⟨found, held, -⟩ := (dropped.counted _ _).mp newest
    simp [abandon, discharge, update, Table.get?_erase] at held
  rw [clearInFlight, if_neg gone]
  exact dropped

theorem cancelJob_sound {request : RpcId} (sound : SoundAfter past turn)
    (carries : turn.Carries number job) (formats : job.errand.mode = .format) :
    SoundAfter past (turn.cancelJob number request) :=
  reply_sound (abandon_sound sound carries (Or.inl formats)) request _

/-! ### Jobs are taken up -/

theorem supersede_unused (counted : turn.server.Counted) (uri : Uri)
    (unused : turn.server.jobs.get? number = none) :
    (turn.supersede uri).server.jobs.get? number = none := by
  rw [supersede_jobs counted, unused]
  rfl

/-- A lint of an open document supersedes the one before it. -/
theorem beginLint_sound {document : Document} (sound : SoundAfter past turn) (origin : Nat)
    (others : List Uri)
    (held : turn.server.documents.get? document.uri = some document) :
    SoundAfter past (turn.beginLint origin document others).2 := by
  have unused : turn.server.jobs.get? turn.server.nextJob = none := by
    by_contra used
    obtain ⟨job, found⟩ := Option.ne_none_iff_exists'.mp used
    exact Nat.lt_irrefl _ (sound.numbered _ job found)
  have counted := supersede_counted sound.counted document.uri
  have free : (turn.supersede document.uri).server.inFlight.get? document.uri = none := by
    simp [supersede_inFlight]
  have stopped := supersede_jobs sound.counted document.uri
  have gone := supersede_unused sound.counted document.uri unused
  obtain ⟨inFlight, jobs, superseded, -⟩ := supersede_frame turn document.uri
  unfold SoundAfter
  simp only [beginLint, superseded, takeUp, update, note] at counted free stopped gone ⊢
  rw [← List.append_assoc]
  refine sound.begin held ?_ ?_ ?_ (counted.begin free gone ⟨?_, ?_⟩ ?_ rfl rfl)
    (fun number => (Table.get?_put _ _ _ _).trans (by rw [stopped])) rfl rfl rfl rfl rfl
  all_goals rfl

/-- A document may change as long as its lint is superseded with it. -/
theorem keep_sound {document : Document} (sound : SoundAfter past turn)
    (serves : turn.server.phase ≠ .fresh) :
    SoundAfter past ((turn.keep document).supersede document.uri) := by
  have stillCounted : (turn.keep document).server.Counted := sound.counted
  have counted := supersede_counted stillCounted document.uri
  have stopped := supersede_jobs stillCounted document.uri
  obtain ⟨inFlight, jobs, superseded, -⟩ := supersede_frame (turn.keep document) document.uri
  rw [superseded] at counted stopped ⊢
  unfold SoundAfter
  simp only [keep, update, note] at counted stopped ⊢
  rw [← List.append_assoc]
  refine sound.touch rfl trivial (by rintro _ ⟨⟩) counted stopped (fun uri => ?_) (fun _ => rfl)
    rfl rfl fun fresh => absurd fresh serves
  rw [Table.get?_put, Deed.document?]
  split <;> rfl

theorem renewLint_sound {document : Document} (sound : SoundAfter past turn) (origin : Nat)
    (serves : turn.server.phase ≠ .fresh) :
    SoundAfter past ((turn.keep document).beginLint origin document []).2 := by
  have kept : SoundAfter past ((turn.keep document).supersede document.uri) :=
    keep_sound sound serves
  have same : (turn.keep document).beginLint origin document [] =
      ((turn.keep document).supersede document.uri).beginLint origin document [] := by
    simp only [beginLint, supersede_supersede]
  rw [same]
  refine beginLint_sound kept origin [] ?_
  rw [supersede_documents]
  simp [keep, update, note, Table.get?_put]

/-- A closed document leaves no diagnostics behind. -/
theorem heedClosed_sound {uri : Uri} (sound : SoundAfter past turn)
    (serves : turn.server.phase ≠ .fresh) : SoundAfter past (turn.heedClosed uri) := by
  have counted := supersede_counted sound.counted uri
  have stopped := supersede_jobs sound.counted uri
  obtain ⟨inFlight, jobs, superseded, -⟩ := supersede_frame turn uri
  rw [heedClosed]
  simp only [superseded, update, note] at counted stopped ⊢
  refine publish_sound ?_ ?_
  · unfold SoundAfter
    rw [← List.append_assoc]
    refine sound.touch rfl trivial (by rintro _ ⟨⟩) counted stopped (fun place => ?_)
      (fun place => ?_) rfl rfl fun fresh => absurd fresh serves
    · rw [Table.get?_erase, Deed.document?]
      split <;> rfl
    · rw [Table.get?_erase, Deed.found?]
      split <;> rfl
  · rw [← List.append_assoc, causeIn?_append]
    exact ⟨rfl, rfl, rfl⟩

/-- Superseding all of some lints stops those of their documents. -/
theorem supersedeAll_stops (counted : turn.server.Counted) (uris : List Uri) :
    (uris.foldl supersede turn).server.Counted ∧
      ∀ number, (uris.foldl supersede turn).server.jobs.get? number =
        (turn.server.jobs.get? number).map (Job.stopIf (· ∈ uris)) := by
  induction uris generalizing turn with
  | nil =>
      refine ⟨counted, fun number => ?_⟩
      have kept (job : Job) : job.stopIf (· ∈ ([] : List Uri)) = job := Job.stopIf_of_apart rfl
      cases held : turn.server.jobs.get? number with
      | none => exact held
      | some job => rw [Option.map_some, kept]; exact held
  | cons uri rest inductionHypothesis =>
      obtain ⟨after, jobs⟩ := inductionHypothesis (supersede_counted counted uri)
      refine ⟨after, fun number => ?_⟩
      rw [List.foldl_cons, jobs number, supersede_jobs counted, Option.map_map]
      congr 1
      funext job
      simp [Function.comp, Job.stopIf_stopIf]

theorem shutDown_sound {id : RpcId} (sound : SoundAfter past turn)
    (serves : turn.server.phase ≠ .fresh) : SoundAfter past (turn.shutDown id) := by
  obtain ⟨counted, stopped⟩ := supersedeAll_stops sound.counted turn.server.inFlight.keys
  obtain ⟨inFlight, jobs, superseded, -⟩ := supersedeAll_frame turn turn.server.inFlight.keys
  rw [shutDown]
  refine reply_sound ?_ id _
  simp only [superseded, update, note] at counted stopped ⊢
  unfold SoundAfter
  rw [← List.append_assoc]
  refine sound.touch rfl trivial (by rintro _ ⟨⟩) counted (fun number => ?_) (fun _ => rfl)
    (fun _ => rfl) rfl rfl fun fresh => absurd fresh serves
  -- A lint that counts is named, so that none is left out.
  rw [stopped]
  cases held : turn.server.jobs.get? number with
  | none => rfl
  | some job =>
      rw [Option.map_some, Option.map_some]
      by_cases finished : job.superseded = true
      · rw [Job.stopIf_of_superseded finished, Job.stopIf_of_superseded finished]
      · by_cases lints : job.errand.mode = .lint
        · have newest := (sound.counted job.document.uri number).mpr
            ⟨job, held, ⟨lints, rfl⟩, by simpa using finished⟩
          have named := Table.mem_keys_of_get? newest
          simp [Job.stopIf, named, Deed.touches]
        · simp [Job.stopIf, lints]

theorem beginFormat_sound {document : Document} {uri : Uri} (sound : SoundAfter past turn)
    (origin : Nat) (request : RpcId) (tabSize : Nat)
    (held : turn.server.documents.get? uri = some document) :
    SoundAfter past (turn.beginFormat origin request tabSize document).2 := by
  have serves : turn.server.phase ≠ .fresh := by
    intro fresh
    have absent := (sound.idle fresh).1 uri
    rw [held] at absent
    cases absent
  exact sound.format rfl rfl serves

/-! ### Jobs are worked on -/

theorem hold_sound (sound : SoundAfter past turn) (carries : turn.Carries number job)
    (wait : Wait) : SoundAfter past (turn.hold number job wait) := by
  obtain ⟨entry, held, same⟩ := carries
  exact sound.restage held (same.trans ⟨rfl, rfl, rfl, rfl, rfl⟩)

theorem startFor_sound {launch : Launch} (sound : SoundAfter past turn)
    (carries : turn.Carries number job) (wait : Wait)
    (fed : ∀ document, .begun number document ∈ past ++ turn.deeds → launch.Feeds document) :
    SoundAfter past (turn.startFor number job wait launch) := by
  refine emit_sound (hold_sound sound carries wait) fed ?_
  rintro _ ⟨⟩
  obtain ⟨entry, held, -⟩ := carries
  exact sound.numbered number entry held

theorem startSetup_sound {stage : Setup} {launch : Launch} (sound : SoundAfter past turn)
    (carries : turn.Carries number job)
    (launched : (stage.command turn.server.isolated.venv).launch turn.disk
      turn.server.environ = .ok launch) :
    SoundAfter past (turn.startFor number job (.setup stage) launch) := by
  exact startFor_sound sound carries _ fun document _ => Setup.launch_feeds launched document

/-- The tool is fed with the text of the lint it is started for. -/
theorem startTool_sound {python : Path} {launch : Launch} (sound : SoundAfter past turn)
    (carries : turn.Carries number job)
    (launched : (job.command python).launch turn.disk turn.server.environ = .ok launch) :
    SoundAfter past (turn.startFor number job (.tool python) launch) := by
  refine startFor_sound sound carries _ fun document begun => ?_
  obtain ⟨entry, held, same⟩ := carries
  have own : job.document = document :=
    same.document ▸ ((sound.begun number document begun).2 entry held).2
  exact own ▸ Job.launch_feeds launched

/-! ### The rest -/

theorem loadSettings_sound (sound : SoundAfter past turn) : SoundAfter past turn.loadSettings := by
  unfold loadSettings
  split
  · exact sound
  · split
    · exact sound.alike rfl rfl rfl rfl rfl rfl id
    · exact tell_sound sound trivial

theorem beginServing_sound {request : RpcId} {params : Params.Beginning}
    (sound : SoundAfter past turn) : SoundAfter past (turn.beginServing request params) := by
  refine reply_sound ?_ request _
  have changed : SoundAfter past (turn.update fun server =>
      { server with
        asksSettings := params.configuration
        folders := initialFolders params
        client := (params.options.bind Settings.ofJson?).getD server.client }) :=
    sound.alike rfl rfl rfl rfl rfl rfl id
  exact (loadSettings_sound changed).alike rfl rfl rfl rfl rfl rfl (by rintro ⟨⟩)

theorem suppress_sound (sound : SoundAfter past turn) (scope : Scope) :
    SoundAfter past (turn.suppress scope) := by
  unfold suppress
  split <;> exact sound.alike rfl rfl rfl rfl rfl rfl id

theorem choose_sound (sound : SoundAfter past turn) (details : String) (folder : Option Path)
    (action : PopupAction) : SoundAfter past (turn.choose details folder action) := by
  unfold choose
  split
  · exact tell_sound sound trivial
  · exact suppress_sound sound _
  · exact sound
  · exact suppress_sound sound _

/-! ### All acts -/

/-- Every act keeps a sound server sound. -/
theorem act_sound {next : Turn} (act : Act turn next) (sound : SoundAfter past turn) :
    SoundAfter past next := by
  cases act with
  | count => exact sound.alike rfl rfl rfl rfl rfl rfl id
  | reply id result plain => exact reply_sound sound id result
  | greet message => exact tell_sound sound trivial
  | serve id params fresh => exact beginServing_sound sound
  | closing ready => exact sound.alike rfl rfl rfl rfl rfl rfl (by rintro ⟨⟩)
  | shutDown id closing => exact shutDown_sound sound (by simp [closing])
  | exit => exact sound.alike rfl rfl rfl rfl rfl rfl (by rintro ⟨⟩)
  | configure client ready => exact sound.alike rfl rfl rfl rfl rfl rfl id
  | folders change => exact sound.alike rfl rfl rfl rfl rfl rfl id
  | close uri ready => exact heedClosed_sound sound (by simp [ready])
  | answered question => exact sound.alike rfl rfl rfl rfl rfl rfl id
  | choose details folder action => exact choose_sound sound details folder action
  | beginLint origin uri document others held =>
      have own := sound.keyed uri document held
      exact beginLint_sound sound origin others (by rw [own, held])
  | renewLint origin document ready => exact renewLint_sound sound origin (by simp [ready])
  | beginFormat origin request tabSize uri document held =>
      exact beginFormat_sound sound origin request tabSize held
  | hold number job wait carries => exact hold_sound sound carries wait
  | askSettings number job carries => exact ask_sound sound trivial
  | enqueue number => exact sound.alike rfl rfl rfl rfl rfl rfl id
  | release number => exact sound.alike rfl rfl rfl rfl rfl rfl id
  | remember => exact sound.alike rfl rfl rfl rfl rfl rfl id
  | removeOld number job carries =>
      exact emit_sound (hold_sound sound carries .removal) trivial (by rintro _ ⟨⟩)
  | startSetup number job stage launch carries launched =>
      exact startSetup_sound sound carries launched
  | startTool number job python launch carries launched =>
      exact startTool_sound sound carries launched
  | finishLint number finding carries lints counts =>
      exact finishLint_sound sound carries lints counts
  | finishFormat number request finding carries formats =>
      exact finishFormat_sound sound carries (Errand.mode_of_request? formats)
  | drop number job carries superseded => exact drop_sound sound carries superseded
  | cancel number request job carries formats => exact cancelJob_sound sound carries formats
  | report number job failure held =>
      obtain ⟨bound, finished, ⟨output, told, fits⟩, -⟩ := sound.telling _ _ held
      exact report_sound sound bound finished (fits ▸ told)
  | popUp number job failure held =>
      obtain ⟨-, -, -, logged⟩ := sound.telling _ _ held
      exact popUp_sound sound (logged failure rfl)
  | conclude number telling held all => exact Sound.silence sound number
  | cancelTelling number request telling held formats =>
      exact reply_sound (Sound.silence sound number) request _

theorem acts_sound {next : Turn} (acts : Acts turn next) (sound : SoundAfter past turn) :
    SoundAfter past next := by
  induction acts with
  | refl => exact sound
  | tail _ act inductionHypothesis => exact act_sound act inductionHypothesis

end Turn

namespace Server

/-- A server that starts is sound: nothing has been done. -/
theorem start_sound (environ : Variables) (configFile : Option Path) (venv : Path)
    (store : Store) : Sound (start environ configFile venv store) [] where
  keyed := by rintro _ _ ⟨⟩
  counted := by
    intro uri number
    constructor
    · rintro ⟨⟩
    · rintro ⟨_, ⟨⟩, -⟩
  kept := fun _ => rfl
  found := fun _ => rfl
  bare := fun _ _ => rfl
  numbered := by rintro _ _ ⟨⟩
  begun := by rintro _ _ ⟨⟩
  known := by rintro _ ⟨⟩
  formats := by rintro _ _ ⟨⟩
  watched := by rintro _ _ ⟨⟩
  current := by rintro _ _ ⟨⟩
  ended := by rintro _ _ ⟨⟩
  telling := by rintro _ _ ⟨⟩
  idle := fun _ => ⟨fun _ => rfl, rfl⟩
  right := fun _ _ comes => absurd comes Comes.not_nil

/-- A turn keeps the invariant. -/
theorem turnOn_sound {server : Server} {history : List Deed} (sound : Sound server history)
    (occasion : Occasion) :
    Sound (server.turnOn occasion).server (history ++ (server.turnOn occasion).deeds) := by
  have begun : Turn.SoundAfter history ⟨server, occasion.disk, []⟩ := by
    simpa [Turn.SoundAfter] using sound
  exact Turn.acts_sound (Turn.step_acts sound.keyed occasion.event occasion.eager) begun

end Server

end TemplateLint
